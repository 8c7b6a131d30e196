import TimedDataflow.Proofs.Trace.Frames

/-! Payloads and the lists of fields that they hold. A field says in its first byte how far
it reaches, so writing and reading undo one another, field by field, unless a text holds the
NUL that ends it.
-/

namespace TimedDataflow

-----------------------------------------------------------------------------------------
-- Text
-----------------------------------------------------------------------------------------

namespace Text

/-- The bytes of a text are those of its characters, one after the other. -/
theorem toBytes_eq (text : String)
    : toBytes text = text.toList.flatMap String.utf8EncodeChar := by
  have encoded : text.toByteArray = text.toList.utf8Encode := text.utf8Encode_toList.symm
  rw [toBytes, String.toUTF8_eq_toByteArray, encoded, List.utf8Encode,
    List.toList_data_toByteArray]

/-- Only the NUL character has a zero among its bytes. -/
theorem zero_mem_utf8EncodeChar_iff (character : Char)
    : 0 ∈ String.utf8EncodeChar character ↔ character = '\x00' := by
  constructor
  · intro member
    have zero (number : Nat) : (0 : UInt8) = UInt8.ofNat number ↔ number % 256 = 0 := by
      rw [← UInt8.toNat_inj, UInt8.toNat_ofNat']
      exact eq_comm
    simp only [String.utf8EncodeChar] at member
    split at member
    case isTrue small =>
        rw [List.mem_singleton, zero] at member
        apply Char.ext
        apply UInt32.toNat_inj.mp
        exact (by omega : character.val.toNat = 0)
    case isFalse =>
        -- the first of several bytes is at least 192, and every other one at least 128
        repeat' split at member
        all_goals
          simp only [List.mem_cons, List.not_mem_nil, or_false, zero] at member
          omega
  · rintro rfl
    decide

/-- A text without NUL has no zero among its bytes. -/
theorem zero_notMem_toBytes {text : String} (free : '\x00' ∉ text.toList)
    : 0 ∉ toBytes text := by
  rw [toBytes_eq]
  intro member
  obtain ⟨character, held, inside⟩ := List.mem_flatMap.mp member
  rw [(zero_mem_utf8EncodeChar_iff character).mp inside] at held
  exact free held

/-- A text that holds a NUL is written as the text in front of the first one, a zero, and what
is behind it.
-/
theorem toBytes_of_nul {text : String} (held : '\x00' ∈ text.toList)
    : ∃ front : String, ∃ back : List UInt8,
        '\x00' ∉ front.toList
        ∧ front ≠ text
        ∧ toBytes text = toBytes front ++ 0 :: back := by
  obtain ⟨before, behind, parted, free⟩ := List.eq_append_cons_of_mem held
  refine ⟨String.ofList before, behind.flatMap String.utf8EncodeChar, ?_, ?_, ?_⟩
  · rwa [String.toList_ofList]
  · rintro rfl
    rw [String.toList_ofList] at held
    exact free held
  · have nul : String.utf8EncodeChar '\x00' = [0] := by decide
    rw [toBytes_eq, toBytes_eq, parted, String.toList_ofList, List.flatMap_append,
      List.flatMap_cons, nul, List.singleton_append]

/-- The bytes of a text are read as the text. -/
theorem ofBytes_toBytes (text : String) : ofBytes (toBytes text) = text := by
  have whole : (toBytes text).toByteArray = text.toByteArray := by
    apply ByteArray.ext
    rw [toBytes, List.data_toByteArray, Array.toArray_toList, String.toUTF8_eq_toByteArray]
  have read : String.fromUTF8? text.toByteArray = some text := by
    rw [String.fromUTF8?, dif_pos text.isValidUTF8]
    rfl
  rw [ofBytes, whole, read]

/-- Valid bytes are those of the text that is read from them. -/
theorem toBytes_ofBytes {bytes : List UInt8} (valid : bytes.toByteArray.IsValidUTF8)
    : toBytes (ofBytes bytes) = bytes := by
  have read : String.fromUTF8? bytes.toByteArray
      = some (String.fromUTF8 bytes.toByteArray valid) := by
    rw [String.fromUTF8?, dif_pos valid]
  rw [ofBytes, read]
  exact List.toList_data_toByteArray

end Text

namespace Trace

-----------------------------------------------------------------------------------------
-- Numbers
-----------------------------------------------------------------------------------------

/-- As many bytes hold no greater number. -/
theorem ofLowBytes_lt (bytes : List UInt8) : ofLowBytes bytes < 256 ^ bytes.length := by
  induction bytes with
  | nil => exact Nat.one_pos
  | cons byte rest ih =>
      have low := byte.toNat_lt
      rw [ofLowBytes, List.length_cons, Nat.pow_succ]
      omega

/-- Bytes are written again as they were read. -/
theorem lowBytes_ofLowBytes (bytes : List UInt8)
    : lowBytes bytes.length (ofLowBytes bytes) = bytes := by
  induction bytes with
  | nil => rfl
  | cons byte rest ih =>
      have low := byte.toNat_lt
      have digit : UInt8.ofNat (byte.toNat + 256 * ofLowBytes rest) = byte := by
        apply UInt8.toNat_inj.mp
        rw [UInt8.toNat_ofNat']
        omega
      have others : (byte.toNat + 256 * ofLowBytes rest) / 256 = ofLowBytes rest := by omega
      rw [List.length_cons, ofLowBytes, lowBytes, digit, others, ih]

namespace Field

-----------------------------------------------------------------------------------------
-- Reading one field
-----------------------------------------------------------------------------------------

/-- A number that fits is read in front of whatever follows it. -/
theorem readFixed_lowBytes {width value : Nat} (field : Nat → Field) (rest : List UInt8)
    (fits : value < 256 ^ width)
    : readFixed width field (lowBytes width value ++ rest) = (.ok (field value), rest) := by
  have taken : (lowBytes width value ++ rest).take width = lowBytes width value :=
    List.take_left' (length_lowBytes width value)
  have left : (lowBytes width value ++ rest).drop width = rest :=
    List.drop_left' (length_lowBytes width value)
  rw [readFixed, taken, left, if_pos (length_lowBytes width value), ofLowBytes_lowBytes fits]

/-- A field of fixed width was read from that many bytes. -/
theorem readFixed_eq_ok {width : Nat} {make : Nat → Field} {bytes rest : List UInt8}
    {field : Field} (read : readFixed width make bytes = (.ok field, rest))
    : ∃ taken,
        taken.length = width ∧ field = make (ofLowBytes taken) ∧ bytes = taken ++ rest := by
  simp only [readFixed] at read
  split at read
  case isTrue enough =>
      obtain ⟨same, left⟩ := Prod.mk.inj read
      refine ⟨bytes.take width, enough, (Except.ok.inj same).symm, ?_⟩
      rw [← left, List.take_append_drop]
  case isFalse => cases (Prod.mk.inj read).1

/-- Bytes without zero are cut off at the zero behind them, by induction on them. -/
theorem cutAtNul_append {before : List UInt8} (behind : List UInt8) (free : 0 ∉ before)
    : cutAtNul (before ++ 0 :: behind) = some (before, behind) := by
  induction before with
  | nil => simp [cutAtNul]
  | cons byte rest ih =>
      obtain ⟨first, others⟩ := not_or.mp fun held => free (List.mem_cons.mpr held)
      simp [cutAtNul, ih others, Ne.symm first]

/-- Bytes that were cut are what was in front of a zero, the zero, and what was behind it. -/
theorem cutAtNul_eq_some {bytes before behind : List UInt8}
    (cut : cutAtNul bytes = some (before, behind))
    : bytes = before ++ 0 :: behind := by
  induction bytes generalizing before with
  | nil => cases cut
  | cons byte rest ih =>
      rw [cutAtNul] at cut
      split at cut
      case isTrue zero =>
          obtain ⟨rfl, rfl⟩ := Prod.mk.inj (Option.some.inj cut)
          rw [zero, List.nil_append]
      case isFalse =>
          obtain ⟨⟨left, right⟩, inner, same⟩ := Option.map_eq_some_iff.mp cut
          obtain ⟨rfl, rfl⟩ := Prod.mk.inj same
          rw [ih inner, List.cons_append]

/-- A text without NUL is read up to the zero behind it. -/
theorem readText_append {text : String} (behind : List UInt8) (free : '\x00' ∉ text.toList)
    : readText (Text.toBytes text ++ 0 :: behind) = (.ok (.text text), behind) := by
  rw [readText, cutAtNul_append behind (Text.zero_notMem_toBytes free)]
  simp only [Text.ofBytes_toBytes]

-----------------------------------------------------------------------------------------
-- Writing, then reading
-----------------------------------------------------------------------------------------

/-- The field holds no text with a NUL inside. -/
def NulFree : Field → Prop
  | text value => '\x00' ∉ value.toList
  | _ => True

/-- A field of fixed width is read in front of whatever follows it. -/
theorem next?_fixed {format : UInt8} {width value : Nat} {field : Field}
    (make : Nat → Field) (rest : List UInt8)
    (announced : ∀ bytes, readValue format bytes = readFixed width make bytes)
    (fits : value < 256 ^ width) (back : make value = field)
    : next? ((format :: lowBytes width value) ++ rest) = some (.ok field, rest) := by
  rw [List.cons_append, next?, announced, readFixed_lowBytes make rest fits, back]

/-- A field without NUL is read in front of whatever follows it. -/
theorem next?_bytes {field : Field} (rest : List UInt8) (free : field.NulFree)
    : next? (field.bytes ++ rest) = some (.ok field, rest) := by
  cases field with
  | u8 value =>
      exact next?_fixed (fun value => u8 (.ofNat value)) rest (fun _ => rfl) value.toNat_lt
        (congrArg u8 UInt8.ofNat_toNat)
  | u16 value =>
      exact next?_fixed (fun value => u16 (.ofNat value)) rest (fun _ => rfl) value.toNat_lt
        (congrArg u16 UInt16.ofNat_toNat)
  | u32 value =>
      exact next?_fixed (fun value => u32 (.ofNat value)) rest (fun _ => rfl) value.toNat_lt
        (congrArg u32 UInt32.ofNat_toNat)
  | f64 bits =>
      exact next?_fixed (fun bits => f64 (.ofNat bits)) rest (fun _ => rfl) bits.toNat_lt
        (congrArg f64 UInt64.ofNat_toNat)
  | text value =>
      have ended : (Text.toBytes value ++ [0]) ++ rest = Text.toBytes value ++ 0 :: rest := by
        rw [List.append_assoc, List.singleton_append]
      rw [bytes, List.cons_append, ended]
      exact congrArg some (readText_append rest free)
  | receiver number =>
      exact next?_fixed (fun number => receiver (.ofNat number)) rest (fun _ => rfl)
        number.toNat_lt (congrArg receiver UInt32.ofNat_toNat)
  | time bits =>
      exact next?_fixed (fun bits => time (.ofNat bits)) rest (fun _ => rfl) bits.toNat_lt
        (congrArg time UInt64.ofNat_toNat)

/-- In place of a text with a NUL another one is read. -/
theorem next?_bytes_of_nul {field : Field} (rest : List UInt8) (held : ¬ field.NulFree)
    : ∃ other behind,
        other ≠ field ∧ next? (field.bytes ++ rest) = some (.ok other, behind) := by
  cases field with
  | text value =>
      obtain ⟨front, back, free, differs, parted⟩ :=
        Text.toBytes_of_nul (Decidable.not_not.mp held)
      refine ⟨.text front, back ++ [0] ++ rest, fun same => differs (Field.text.inj same), ?_⟩
      have ended : (Text.toBytes value ++ [0]) ++ rest
          = Text.toBytes front ++ 0 :: (back ++ [0] ++ rest) := by
        rw [parted]
        simp only [List.append_assoc, List.cons_append]
      rw [bytes, List.cons_append, ended]
      exact congrArg some (readText_append _ free)
  | _ => exact absurd trivial held

/-- What is read behind a field does not depend on it. -/
theorem readAll_of_next? {bytes rest : List UInt8} {field : Field}
    (step : next? bytes = some (.ok field, rest))
    : readAll bytes = (readAll rest).map (field :: ·) := by
  rw [readAll]
  split
  · rename_i none
    cases step.symm.trans none
  · rename_i failed
    cases step.symm.trans failed
  · rename_i found
    cases step.symm.trans found
    rfl

/-- There is nothing to read in no bytes. -/
@[simp]
theorem readAll_nil : readAll [] = .ok [] := by
  rw [readAll]
  rfl

/-- Fields are read back from their payload just when none of them holds a NUL, by induction
on the fields.
-/
theorem readAll_payload_iff (fields : List Field)
    : readAll (payload fields) = .ok fields ↔ ∀ field ∈ fields, field.NulFree := by
  induction fields with
  | nil => simp [payload]
  | cons field others ih =>
      have parted : payload (field :: others) = field.bytes ++ payload others :=
        List.flatMap_cons
      rw [parted, List.forall_mem_cons]
      by_cases free : field.NulFree
      · rw [readAll_of_next? (next?_bytes _ free), ← ih]
        cases readAll (payload others) with
        | error malformation => simp [Except.map]
        | ok read => simp [Except.map, free]
      · obtain ⟨other, behind, differs, step⟩ := next?_bytes_of_nul (payload others) free
        rw [readAll_of_next? step]
        cases readAll behind with
        | error malformation => simp [Except.map, free]
        | ok read => simp [Except.map, free, differs]

-----------------------------------------------------------------------------------------
-- Reading, then writing
-----------------------------------------------------------------------------------------

/-- The bytes of text behind the format byte, where one announces a text that ends. -/
def segment? : List UInt8 → Option (List UInt8)
  | [] => none
  | format :: rest =>
      if format.toNat = 0x08 then (cutAtNul rest).map fun cut => cut.1 else none

/-- The pieces of text that a reader comes upon. -/
def segments (bytes : List UInt8) : List (List UInt8) :=
  match _step : next? bytes with
  | none => []
  | some (_, rest) => (segment? bytes).toList ++ segments rest
termination_by bytes.length
decreasing_by exact next?_shorter _step

/-- There is no text in no bytes. -/
@[simp]
theorem segments_nil : segments [] = [] := by
  rw [segments]
  rfl

/-- The first piece of text is the one of the first field. -/
theorem segments_of_next? {bytes rest : List UInt8} {result : Except Malformation Field}
    (step : next? bytes = some (result, rest))
    : segments bytes = (segment? bytes).toList ++ segments rest := by
  rw [segments]
  split
  · rename_i none
    cases step.symm.trans none
  · rename_i found
    cases step.symm.trans found
    rfl

/-- A field of fixed width is written with the bytes that it was read from. -/
theorem bytes_of_readFixed (code : UInt8) {format : UInt8} {width : Nat}
    {make : Nat → Field} {tail rest : List UInt8} {field : Field}
    (announced : format.toNat = code.toNat)
    (read : readFixed width make tail = (.ok field, rest))
    (written : ∀ value < 256 ^ width, (make value).bytes = code :: lowBytes width value)
    : field.bytes ++ rest = format :: tail := by
  obtain ⟨taken, long, rfl, rfl⟩ := readFixed_eq_ok read
  have fits : ofLowBytes taken < 256 ^ width := long ▸ ofLowBytes_lt taken
  have same : lowBytes width (ofLowBytes taken) = taken := long ▸ lowBytes_ofLowBytes taken
  rw [written _ fits, same, UInt8.toNat_inj.mp announced, List.cons_append]

/-- A text is written with the bytes that it was read from, if they were valid. -/
theorem bytes_of_readText {format : UInt8} {tail rest : List UInt8} {field : Field}
    (announced : format.toNat = 0x08) (read : readText tail = (.ok field, rest))
    (valid : ∀ segment ∈ segment? (format :: tail), segment.toByteArray.IsValidUTF8)
    : field.bytes ++ rest = format :: tail := by
  have code : format = 0x08 := UInt8.toNat_inj.mp announced
  rw [readText] at read
  split at read
  case h_1 before behind cut =>
      obtain ⟨same, rfl⟩ := Prod.mk.inj read
      have piece : segment? (format :: tail) = some before := by
        rw [segment?, if_pos announced, cut, Option.map_some]
      rw [← Except.ok.inj same, bytes, Text.toBytes_ofBytes (valid before piece),
        cutAtNul_eq_some cut, code]
      simp
  case h_2 => cases (Prod.mk.inj read).1

/-- A field is written with the bytes that it was read from. -/
theorem bytes_of_next? {source rest : List UInt8} {field : Field}
    (step : next? source = some (.ok field, rest))
    (valid : ∀ segment ∈ segment? source, segment.toByteArray.IsValidUTF8)
    : field.bytes ++ rest = source := by
  cases source with
  | nil => cases step
  | cons format tail =>
      have read : readValue format tail = (.ok field, rest) := Option.some.inj step
      unfold readValue at read
      split at read
      case h_1 announced =>
          exact bytes_of_readFixed 0x01 announced read fun value fits => by
            rw [bytes, UInt8.toNat_ofNat_of_lt' fits]
      case h_2 announced =>
          exact bytes_of_readFixed 0x03 announced read fun value fits => by
            rw [bytes, UInt16.toNat_ofNat_of_lt' fits]
      case h_3 announced =>
          exact bytes_of_readFixed 0x05 announced read fun value fits => by
            rw [bytes, UInt32.toNat_ofNat_of_lt' fits]
      case h_4 announced =>
          exact bytes_of_readFixed 0x07 announced read fun value fits => by
            rw [bytes, UInt64.toNat_ofNat_of_lt' fits]
      case h_5 announced => exact bytes_of_readText announced read valid
      case h_6 announced =>
          exact bytes_of_readFixed 0x0B announced read fun value fits => by
            rw [bytes, UInt32.toNat_ofNat_of_lt' fits]
      case h_7 announced =>
          exact bytes_of_readFixed 0x0E announced read fun value fits => by
            rw [bytes, UInt64.toNat_ofNat_of_lt' fits]
      case h_8 => cases (Prod.mk.inj read).1

/-- Bytes that are read as fields, with every piece of text valid, are the payload of these
fields, by induction on the reader's way through them.
-/
theorem payload_of_readAll {source : List UInt8} {fields : List Field}
    (read : readAll source = .ok fields)
    (valid : ∀ segment ∈ segments source, segment.toByteArray.IsValidUTF8)
    : payload fields = source := by
  fun_induction readAll source generalizing fields with
  | case1 source ended =>
      cases source with
      | nil =>
          rw [← Except.ok.inj read]
          rfl
      | cons format tail => cases ended
  | case2 => cases read
  | case3 source field rest step ih =>
      rw [segments_of_next? step, List.forall_mem_append] at valid
      obtain ⟨first, others⟩ := valid
      cases behind : readAll rest with
      | error malformation =>
          rw [behind] at read
          cases read
      | ok found =>
          rw [behind] at read
          rw [← Except.ok.inj read, payload, List.flatMap_cons]
          have whole : payload found = rest := ih behind others
          rw [payload] at whole
          rw [whole]
          exact bytes_of_next? step fun segment held =>
            first segment (Option.mem_toList.mpr held)

-----------------------------------------------------------------------------------------
-- Both ways
-----------------------------------------------------------------------------------------

/-- Writing and reading payloads undo one another. A list of fields, however long, is read back
from its payload just when no text among them holds a NUL; and bytes that are read as fields,
with every piece of text on the way valid UTF-8, are written again as they were.
-/
theorem payload_and_readAll_undo_one_another
    : (∀ fields : List Field,
        readAll (payload fields) = .ok fields
        ↔ ∀ value, Field.text value ∈ fields → '\x00' ∉ value.toList)
      ∧ ∀ (source : List UInt8) (fields : List Field),
          readAll source = .ok fields
          → (∀ segment ∈ segments source, segment.toByteArray.IsValidUTF8)
          → payload fields = source := by
  refine ⟨fun fields => ?_, fun _ _ => payload_of_readAll⟩
  rw [readAll_payload_iff]
  constructor
  · exact fun free value held => free (.text value) held
  · intro free field held
    cases field with
    | text value => exact free value held
    | _ => trivial

/-- A payload of a number and a text is read back, and written again. -/
theorem greeting_read_and_written
    : readAll (payload [.u8 3, .text "hi"]) = .ok [.u8 3, .text "hi"]
      ∧ readAll [0x01, 3, 0x08, 0x68, 0x69, 0] = .ok [.u8 3, .text "hi"]
      ∧ (∀ segment ∈ segments [0x01, 3, 0x08, 0x68, 0x69, 0],
          segment.toByteArray.IsValidUTF8)
      ∧ payload [.u8 3, .text "hi"] = [0x01, 3, 0x08, 0x68, 0x69, 0] := by
  have read : readAll (payload [.u8 3, .text "hi"]) = .ok [.u8 3, .text "hi"] := by
    apply (payload_and_readAll_undo_one_another.1 _).mpr
    intro value held
    obtain rfl : value = "hi" := by simpa using held
    decide
  have written : payload [.u8 3, .text "hi"] = [0x01, 3, 0x08, 0x68, 0x69, 0] := by decide
  have back : readAll [0x01, 3, 0x08, 0x68, 0x69, 0] = .ok [.u8 3, .text "hi"] :=
    written ▸ read
  have pieces : segments [0x01, 3, 0x08, 0x68, 0x69, 0] = [[0x68, 0x69]] := by
    have number : next? [0x01, 3, 0x08, 0x68, 0x69, 0]
        = some (.ok (.u8 3), [0x08, 0x68, 0x69, 0]) := rfl
    have text : next? [0x08, 0x68, 0x69, 0]
        = some (.ok (.text (Text.ofBytes [0x68, 0x69])), []) := rfl
    rw [segments_of_next? number, segments_of_next? text, segments_nil]
    rfl
  have valid : ∀ segment ∈ segments [0x01, 3, 0x08, 0x68, 0x69, 0],
      segment.toByteArray.IsValidUTF8 := by
    rw [pieces]
    decide
  exact ⟨read, back, valid, payload_and_readAll_undo_one_another.2 _ _ back valid⟩

end Field
end Trace
end TimedDataflow
