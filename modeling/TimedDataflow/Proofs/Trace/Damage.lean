import Mathlib.Algebra.BigOperators.Group.List.Basic
import Mathlib.Algebra.Group.Nat.Even
import Mathlib.Data.List.DropRight
import Mathlib.Data.UInt
import TimedDataflow.Proofs.Trace.Frames

/-! Frames that were damaged on their way. All bytes of a frame, its checksum among them, add up to
the same sum, so one that was changed is missed there. A flag inside a frame is refused, unless
an escape byte takes it for the second byte of its pair.
-/

namespace TimedDataflow.Trace.Frame

-----------------------------------------------------------------------------------------
-- Sums
-----------------------------------------------------------------------------------------

/-- The checksum is the complement of the sum. -/
theorem checksum_eq (bytes : List UInt8) : checksum bytes = ~~~bytes.sum := by
  rw [checksum, List.sum_eq_foldl]

/-- A byte in the place of another changes the sum by their difference, by induction on the
bytes.
-/
theorem sum_set {bytes : List UInt8} {place : Nat} {was : UInt8}
    (held : bytes[place]? = some was) (now : UInt8)
    : (bytes.set place now).sum + was = bytes.sum + now := by
  induction bytes generalizing place with
  | nil => cases held
  | cons byte rest ih =>
      cases place with
      | zero =>
          obtain rfl : byte = was := by simpa using held
          simp only [List.set_cons_zero, List.sum_cons]
          grind
      | succ place =>
          have step := ih (by simpa using held)
          simp only [List.set_cons_succ, List.sum_cons]
          grind

/-- With its checksum behind it, any content has the same sum. -/
theorem sum_of_checked {raw : List UInt8}
    (checked : raw.getLast? = some (checksum raw.dropLast))
    : raw.sum = 255 := by
  have whole : raw.dropLast ++ [checksum raw.dropLast] = raw :=
    List.dropLast_append_getLast? _ checked
  have complement := UInt8.neg_eq_not_add raw.dropLast.sum
  calc
    raw.sum = raw.dropLast.sum + ~~~raw.dropLast.sum := by
      rw [← checksum_eq, ← List.sum_singleton (x := checksum raw.dropLast), ← List.sum_append,
        whole]
    _ = 255 := by grind

/-- Where one byte was changed, the checksum does not fit any more. -/
theorem parse_set (record : Record) {place : Nat} {was now : UInt8}
    (held : (content record ++ [checksum (content record)])[place]? = some was)
    (differs : now ≠ was)
    : parse record.timestamp.isSome
        ((content record ++ [checksum (content record)]).set place now)
      = .error .checksumMismatch := by
  have long := headerLength_le_content record
  have whole : (content record ++ [checksum (content record)]).sum = 255 :=
    sum_of_checked (by simp)
  have moved := sum_set held now
  rw [parse, if_neg (by simp; omega), if_pos]
  intro checked
  rw [sum_of_checked checked, whole] at moved
  grind

-----------------------------------------------------------------------------------------
-- A changed byte
-----------------------------------------------------------------------------------------

/-- A byte that is neither flag nor escape is read as it is. -/
theorem unstuff_plain {byte : UInt8} (noEscape : byte ≠ escape) (noFlag : byte ≠ flag)
    (rest : List UInt8)
    : unstuff (byte :: rest) = (unstuff rest).map (byte :: ·) := by
  cases rest <;> simp [unstuff, noEscape, noFlag]

/-- A pair is read as one byte. -/
theorem unstuff_pair (escaped : UInt8) (rest : List UInt8)
    : unstuff (escape :: escaped :: rest) = (unstuff rest).map ((escaped ^^^ mask) :: ·) := by
  simp [unstuff]

/-- A flag is refused. -/
theorem unstuff_flag (rest : List UInt8) : unstuff (flag :: rest) = .error .unexpectedFlag := by
  cases rest <;> rfl

/-- A scan that goes on behind a byte fails as it does from there. -/
theorem map_eq_error_iff {read : UInt8} {scan : Except Malformation (List UInt8)}
    {malformation : Malformation}
    : scan.map (read :: ·) = .error malformation ↔ scan = .error malformation := by
  cases scan <;> simp [Except.map]

/-- What is wrong with unescaped bytes is not a flag. -/
theorem parse_ne_unexpectedFlag (stamped : Bool) (raw : List UInt8)
    : parse stamped raw ≠ .error .unexpectedFlag := by
  unfold parse
  split
  · simp
  · dsimp only
    split
    · simp
    · split
      · split <;> simp
      · simp

/-- Of the bytes that one byte is sent as, each but the escape may be changed: one byte is read,
and it is another one.
-/
theorem unstuff_stuffByte_set {byte was now : UInt8} {place : Nat}
    (held : (stuffByte byte)[place]? = some was) (isPlain : was ≠ escape) (differs : now ≠ was)
    (noEscape : now ≠ escape) (noFlag : now ≠ flag)
    : ∃ read, read ≠ byte
        ∧ ∀ rest, unstuff ((stuffByte byte).set place now ++ rest)
            = (unstuff rest).map (read :: ·) := by
  unfold stuffByte at held ⊢
  split at held
  case isTrue special =>
      rw [if_pos special]
      match place with
      | 0 =>
          obtain rfl : escape = was := by simpa using held
          exact absurd rfl isPlain
      | 1 =>
          obtain rfl : byte ^^^ mask = was := by simpa using held
          refine ⟨now ^^^ mask, fun same => differs ?_, unstuff_pair now⟩
          rw [← same, UInt8.xor_assoc, UInt8.xor_self, UInt8.xor_zero]
      | place + 2 => simp at held
  case isFalse plain =>
      rw [if_neg plain]
      match place with
      | 0 =>
          obtain rfl : byte = was := by simpa using held
          exact ⟨now, differs, unstuff_plain noEscape noFlag⟩
      | place + 1 => simp at held

/-- Where one of the stuffed bytes was changed, one of the bytes is read as another, by induction
on the bytes.
-/
theorem unstuff_stuff_set {bytes : List UInt8} {was now : UInt8} {place : Nat}
    (held : (stuff bytes)[place]? = some was) (isPlain : was ≠ escape) (differs : now ≠ was)
    (noEscape : now ≠ escape) (noFlag : now ≠ flag)
    : ∃ index sent read,
        bytes[index]? = some sent
        ∧ read ≠ sent
        ∧ unstuff ((stuff bytes).set place now) = .ok (bytes.set index read) := by
  induction bytes generalizing place with
  | nil => cases held
  | cons byte rest ih =>
      have ahead : stuff (byte :: rest) = stuffByte byte ++ stuff rest := List.flatMap_cons
      rw [ahead] at held ⊢
      rcases Nat.lt_or_ge place (stuffByte byte).length with first | behind
      · rw [List.getElem?_append_left first] at held
        obtain ⟨read, other, unstuffed⟩ :=
          unstuff_stuffByte_set held isPlain differs noEscape noFlag
        refine ⟨0, byte, read, rfl, other, ?_⟩
        rw [List.set_append_left _ _ first, unstuffed, unstuff_stuff]
        rfl
      · rw [List.getElem?_append_right behind] at held
        obtain ⟨index, sent, read, found, other, unstuffed⟩ := ih held
        refine ⟨index + 1, sent, read, found, other, ?_⟩
        rw [List.set_append_right _ _ behind, unstuff_stuffByte, unstuffed]
        rfl

/-- A frame in which one byte in front of the flag was changed is missed by its checksum, as long
as neither the byte that was there nor the one that came is an escape, and no flag came.
-/
theorem changed_byte_mismatches (record : Record) {place : Nat} {was now : UInt8}
    (inside : place + 1 < (encode record).length) (held : (encode record)[place]? = some was)
    (isPlain : was ≠ escape) (differs : now ≠ was) (noEscape : now ≠ escape)
    (noFlag : now ≠ flag)
    : decode record.timestamp.isSome ((encode record).set place now)
      = .error .checksumMismatch := by
  have first : place < (slice record).length := by
    rw [encode_eq, List.length_append, List.length_singleton] at inside
    omega
  rw [encode_eq, List.getElem?_append_left first] at held
  obtain ⟨index, sent, read, found, other, unstuffed⟩ :=
    unstuff_stuff_set held isPlain differs noEscape noFlag
  have whole : body ((encode record).set place now) = (slice record).set place now := by
    rw [encode_eq, List.set_append_left _ _ first]
    simp [body]
  rw [decode, whole]
  unfold slice
  rw [unstuffed]
  exact parse_set record found other

/-- The second byte of a pair in a payload of flag and escape is changed. -/
theorem changed_byte_mismatches_paired
    : let record : Record := ⟨1, 2, some ⟨0, 1500⟩, [flag, escape]⟩
      (encode record)[7]? = some 0x5E
      ∧ decode true ((encode record).set 7 0x5D) = .error .checksumMismatch := by
  intro record
  have held : (encode record)[7]? = some 0x5E := by decide
  exact ⟨held, changed_byte_mismatches record (by decide) held (by decide)
    (by decide) (by decide) (by decide)⟩

-----------------------------------------------------------------------------------------
-- A flag inside
-----------------------------------------------------------------------------------------

/-- How many escapes stand in one run at the end. -/
def trailingEscapes (bytes : List UInt8) : Nat := (bytes.rtakeWhile (· = escape)).length

/-- One more escape makes the run longer, and any other byte ends it. -/
theorem trailingEscapes_concat (front : List UInt8) (last : UInt8)
    : trailingEscapes (front ++ [last])
      = if last = escape then trailingEscapes front + 1 else 0 := by
  by_cases same : last = escape <;> simp [trailingEscapes, same]

/-- A byte in front makes the run longer when it is an escape and so are all others, by induction
from the last byte.
-/
theorem trailingEscapes_cons (byte : UInt8) (rest : List UInt8)
    : trailingEscapes (byte :: rest)
      = trailingEscapes rest
        + if byte = escape ∧ trailingEscapes rest = rest.length then 1 else 0 := by
  induction rest using List.reverseRecOn with
  | nil => simpa [trailingEscapes] using trailingEscapes_concat [] byte
  | append_singleton front last ih =>
      rw [← List.cons_append, trailingEscapes_concat, trailingEscapes_concat, ih,
        List.length_append, List.length_singleton]
      by_cases same : last = escape
      · simp only [if_pos same, Nat.add_right_cancel_iff]
        omega
      · simp [same]

/-- A byte in front that is no escape leaves the run as it is. -/
theorem trailingEscapes_plain {byte : UInt8} (noEscape : byte ≠ escape) (rest : List UInt8)
    : trailingEscapes (byte :: rest) = trailingEscapes rest := by
  rw [trailingEscapes_cons, if_neg fun both => noEscape both.1, Nat.add_zero]

/-- A pair in front leaves it even or odd. -/
theorem even_trailingEscapes_pair (escaped : UInt8) (rest : List UInt8)
    : Even (trailingEscapes (escape :: escaped :: rest)) ↔ Even (trailingEscapes rest) := by
  have bound : trailingEscapes rest ≤ rest.length := (List.rtakeWhile_suffix _ _).length_le
  rw [trailingEscapes_cons, trailingEscapes_cons escaped, List.length_cons, Nat.even_iff,
    Nat.even_iff]
  by_cases both : escaped = escape ∧ trailingEscapes rest = rest.length
  · rw [if_pos both, if_pos ⟨rfl, by omega⟩]
    omega
  · rw [if_neg both, if_neg (by omega)]
    omega

/-- A flag behind an even run is scanned as a flag, by induction on the bytes in front as they are
scanned.
-/
theorem unstuff_of_even {front : List UInt8} (even : Even (trailingEscapes front))
    (back : List UInt8)
    : unstuff (front ++ flag :: back) = .error .unexpectedFlag := by
  fun_induction unstuff front with
  | case1 => exact unstuff_flag back
  | case2 => exact absurd even (by decide)
  | case3 escaped behind ih =>
      rw [List.cons_append, List.cons_append, unstuff_pair,
        ih ((even_trailingEscapes_pair escaped behind).mp even)]
      rfl
  | case4 behind => exact unstuff_flag (behind ++ flag :: back)
  | case5 byte behind noEscape noFlag ih =>
      rw [trailingEscapes_plain noEscape] at even
      rw [List.cons_append, unstuff_plain noEscape noFlag, ih even]
      rfl

/-- What is scanned as a flag is one behind an even run, by induction on the scan. -/
theorem exists_even_of_unstuff {bytes : List UInt8}
    (refused : unstuff bytes = .error .unexpectedFlag)
    : ∃ front back, bytes = front ++ flag :: back ∧ Even (trailingEscapes front) := by
  fun_induction unstuff bytes with
  | case1 => cases refused
  | case2 => cases refused
  | case3 escaped behind ih =>
      obtain ⟨front, back, rfl, even⟩ := ih (map_eq_error_iff.mp refused)
      exact ⟨escape :: escaped :: front, back, rfl,
        (even_trailingEscapes_pair escaped front).mpr even⟩
  | case4 behind => exact ⟨[], behind, rfl, by decide⟩
  | case5 byte behind noEscape noFlag ih =>
      obtain ⟨front, back, rfl, even⟩ := ih (map_eq_error_iff.mp refused)
      refine ⟨byte :: front, back, rfl, ?_⟩
      rwa [trailingEscapes_plain noEscape]

/-- The bytes with every pair of escape and flag replaced by the byte as which it is read. -/
def flagless : List UInt8 → List UInt8
  | [] => []
  | byte :: rest =>
      if byte = escape then
        match rest with
        | [] => [escape]
        | escaped :: behind =>
            if escaped = flag then (flag ^^^ mask) :: flagless behind
            else escape :: escaped :: flagless behind
      else byte :: flagless rest

/-- They are read alike, by induction on the scan. -/
theorem unstuff_flagless (bytes : List UInt8) : unstuff (flagless bytes) = unstuff bytes := by
  fun_induction flagless bytes with
  | case1 => rfl
  | case2 => rfl
  | case3 behind ih =>
      rw [unstuff_pair, unstuff_plain (by decide) (by decide), ih]
  | case4 escaped behind noFlag ih => rw [unstuff_pair, unstuff_pair, ih]
  | case5 byte behind noEscape ih =>
      by_cases isFlag : byte = flag
      · rw [isFlag, unstuff_flag, unstuff_flag]
      · rw [unstuff_plain noEscape isFlag, unstuff_plain noEscape isFlag, ih]

/-- A flag that is left is scanned as one, by induction on the scan. -/
theorem flag_mem_flagless_iff (bytes : List UInt8)
    : flag ∈ flagless bytes ↔ unstuff bytes = .error .unexpectedFlag := by
  fun_induction flagless bytes with
  | case1 => simp [unstuff]
  | case2 => decide
  | case3 behind ih =>
      have other : flag ≠ flag ^^^ mask := by decide
      rw [unstuff_pair, map_eq_error_iff, ← ih, List.mem_cons, or_iff_right other]
  | case4 escaped behind noFlag ih =>
      have other : flag ≠ escape := by decide
      rw [unstuff_pair, map_eq_error_iff, ← ih, List.mem_cons, List.mem_cons,
        or_iff_right other, or_iff_right (Ne.symm noFlag)]
  | case5 byte behind noEscape ih =>
      by_cases isFlag : byte = flag
      · simp [isFlag, unstuff_flag]
      · rw [unstuff_plain noEscape isFlag, map_eq_error_iff, ← ih, List.mem_cons,
          or_iff_right (Ne.symm isFlag)]

/-- The flags of the body are those inside the frame. -/
theorem body_eq_append_flag_iff (frame front : List UInt8)
    : (∃ back, body frame = front ++ flag :: back)
      ↔ ∃ back, frame = front ++ flag :: back ∧ back ≠ [] := by
  unfold body
  split
  case isTrue ended =>
      have whole : frame.dropLast ++ [flag] = frame := List.dropLast_append_getLast? _ ended
      constructor
      · rintro ⟨back, same⟩
        refine ⟨back ++ [flag], ?_, by simp⟩
        rw [← whole, same, List.append_assoc, List.cons_append]
      · rintro ⟨back, rfl, more⟩
        exact ⟨back.dropLast, by simp [List.dropLast_cons_of_ne_nil more]⟩
  case isFalse unended =>
      constructor
      · rintro ⟨back, rfl⟩
        refine ⟨back, rfl, ?_⟩
        rintro rfl
        exact unended (by simp)
      · rintro ⟨back, same, -⟩
        exact ⟨back, same⟩

/-- A flag inside a frame is refused as such just when an even number of escapes, and be it none,
stands directly in front of it. Any other flag is the second byte of a pair: the frame is read as
the one in which each such pair is replaced by the byte as which it is read, and no flag but
those that are refused is left in that one.
-/
theorem flag_refused_unless_escaped (stamped : Bool) (frame : List UInt8)
    : (decode stamped frame = .error .unexpectedFlag
        ↔ ∃ front back,
            frame = front ++ flag :: back ∧ back ≠ [] ∧ Even (trailingEscapes front))
      ∧ decode stamped frame = decode stamped (flagless (body frame) ++ [flag])
      ∧ (flag ∈ flagless (body frame) ↔ decode stamped frame = .error .unexpectedFlag) := by
  have scanned
      : decode stamped frame = .error .unexpectedFlag
        ↔ unstuff (body frame) = .error .unexpectedFlag := by
    unfold decode
    cases unstuff (body frame) with
    | error malformation => simp
    | ok raw => simp [parse_ne_unexpectedFlag]
  refine ⟨?_, ?_, ?_⟩
  · rw [scanned]
    constructor
    · intro refused
      obtain ⟨front, back, same, even⟩ := exists_even_of_unstuff refused
      obtain ⟨more, whole, inside⟩ := (body_eq_append_flag_iff frame front).mp ⟨back, same⟩
      exact ⟨front, more, whole, inside, even⟩
    · rintro ⟨front, back, whole, inside, even⟩
      obtain ⟨less, same⟩ := (body_eq_append_flag_iff frame front).mpr ⟨back, whole, inside⟩
      rw [same]
      exact unstuff_of_even even less
  · have ended : body (flagless (body frame) ++ [flag]) = flagless (body frame) := by simp [body]
    rw [decode, decode, ended, unstuff_flagless]
  · rw [scanned, flag_mem_flagless_iff]

/-- A flag that an escape takes for the second byte of its pair is not refused, with or without a
time stamp.
-/
theorem not_always_refused
    : ¬∀ (stamped : Bool) (front back : List UInt8),
        back ≠ []
        → ∃ malformation, decode stamped (front ++ flag :: back) = .error malformation := by
  intro refused
  obtain ⟨malformation, failed⟩ :=
    refused false [1, 2, 3, 4, 5, 6, escape] [0x8C, flag] (by simp)
  have read
      : decode false ([1, 2, 3, 4, 5, 6, escape] ++ flag :: [0x8C, flag])
        = .ok ⟨1, 2, none, [3, 4, 5, 6, 0x5E]⟩ := by
    decide
  rw [read] at failed
  cases failed

end TimedDataflow.Trace.Frame
