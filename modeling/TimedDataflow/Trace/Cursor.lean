import TimedDataflow.Trace.Field

/-! Cursors: a payload, and the position up to which it was read. A cursor looks at the bytes
between two positions. Where a value of fixed width is not all there the field is truncated; any
other look outside of the payload leaves the cursor without an answer.
-/

namespace TimedDataflow.Trace

/-- The bytes from one position up to another, if they are all there. -/
def between? (bytes : List UInt8) (start stop : Nat) : Option (List UInt8) :=
  if start ≤ stop ∧ stop ≤ bytes.length then some (bytes.extract start stop) else none

/-- How a value stands behind its format byte. -/
inductive Layout where
  | fixed (width : Nat) (make : Nat → Field)
  | text

/-- The layout that a format byte announces. -/
def Layout.ofFormat? (format : UInt8) : Option Layout :=
  match format.toNat with
  | 0x01 => some (.fixed 1 fun value => .u8 (.ofNat value))
  | 0x03 => some (.fixed 2 fun value => .u16 (.ofNat value))
  | 0x05 => some (.fixed 4 fun value => .u32 (.ofNat value))
  | 0x07 => some (.fixed 8 fun value => .f64 (.ofNat value))
  | 0x08 => some .text
  | 0x0B => some (.fixed 4 fun value => .receiver (.ofNat value))
  | 0x0E => some (.fixed 8 fun value => .time (.ofNat value))
  | _ => none

/-- A payload and the position of the first byte that was not read. -/
structure Cursor where
  bytes : List UInt8
  position : Nat
deriving DecidableEq

namespace Cursor

/-- A field, nothing at the end of the payload, or what is wrong with a field. -/
abbrev Answer : Type := Except Malformation (Option Field)

/-- In front of the first byte. -/
def new (bytes : List UInt8) : Cursor := ⟨bytes, 0⟩

/-- Some bytes further on. -/
def skip (cursor : Cursor) (count : Nat) : Cursor :=
  { cursor with position := cursor.position + count }

@[simp]
theorem bytes_skip (cursor : Cursor) (count : Nat)
    : (cursor.skip count).bytes = cursor.bytes := rfl

@[simp]
theorem position_skip (cursor : Cursor) (count : Nat)
    : (cursor.skip count).position = cursor.position + count := rfl

/-- Takes a value of fixed width, unless bytes are missing. -/
def takeFixed (cursor : Cursor) (width : Nat) (make : Nat → Field) : Answer × Cursor :=
  match between? cursor.bytes cursor.position (cursor.position + width) with
  | some taken => (.ok (some (make (ofLowBytes taken))), cursor.skip width)
  | none => (.error .truncatedField, cursor)

/-- Takes a text and the NUL behind it, unless there is none. -/
def takeText? (cursor : Cursor) : Option (Answer × Cursor) :=
  (between? cursor.bytes cursor.position cursor.bytes.length).bind fun rest =>
    match rest.findIdx? (· = 0) with
    | none => some (.error .unterminatedString, cursor)
    | some stop =>
        (between? rest 0 stop).map fun text =>
          (.ok (some (.text (Text.ofBytes text))), cursor.skip (stop + 1))

/-- Takes the value that a format byte announces. -/
def takeValue? (cursor : Cursor) (format : UInt8) : Option (Answer × Cursor) :=
  match Layout.ofFormat? format with
  | some (.fixed width make) => some (cursor.takeFixed width make)
  | some .text => cursor.takeText?
  | none => some (.error .unknownFormat, cursor)

/-- The next field. The format byte is taken first, whatever becomes of the value. There is no
answer where a text would be looked for outside of the payload.
-/
def next? (cursor : Cursor) : Option (Answer × Cursor) :=
  match cursor.bytes[cursor.position]? with
  | none => some (.ok none, cursor)
  | some format => (cursor.skip 1).takeValue? format

/-- A value is taken by going on, if only by no byte. -/
theorem takeValue?_skips {cursor after : Cursor} {format : UInt8} {answer : Answer}
    (call : cursor.takeValue? format = some (answer, after))
    : ∃ count, after = cursor.skip count := by
  unfold takeValue? at call
  split at call
  case h_1 width make _ =>
      unfold takeFixed at call
      split at call
      · cases call
        exact ⟨width, rfl⟩
      · cases call
        exact ⟨0, rfl⟩
  case h_2 =>
      unfold takeText? at call
      obtain ⟨rest, -, found⟩ := Option.bind_eq_some_iff.mp call
      split at found
      · cases found
        exact ⟨0, rfl⟩
      · obtain ⟨text, -, same⟩ := Option.map_eq_some_iff.mp found
        cases same
        exact ⟨_, rfl⟩
  case h_3 =>
      cases call
      exact ⟨0, rfl⟩

/-- An answer other than the end uses up at least one byte. -/
theorem next?_shorter {cursor after : Cursor} {answer : Answer}
    (call : cursor.next? = some (answer, after)) (goesOn : answer ≠ .ok none)
    : after.bytes.length - after.position < cursor.bytes.length - cursor.position := by
  unfold next? at call
  split at call
  case h_1 =>
      cases call
      exact absurd rfl goesOn
  case h_2 format found =>
      obtain ⟨count, rfl⟩ := takeValue?_skips call
      obtain ⟨inside, -⟩ := List.getElem?_eq_some_iff.mp found
      simp only [bytes_skip, position_skip]
      omega

/-- All fields that were not read, or what is wrong with the first that cannot be read. -/
def fields? (cursor : Cursor) : Option (Except Malformation (List Field)) :=
  match _call : cursor.next? with
  | none => none
  | some (.error malformation, _) => some (.error malformation)
  | some (.ok none, _) => some (.ok [])
  | some (.ok (some field), after) => after.fields?.map fun rest => rest.map (field :: ·)
termination_by cursor.bytes.length - cursor.position
decreasing_by exact next?_shorter _call (by simp)

end Cursor
end TimedDataflow.Trace
