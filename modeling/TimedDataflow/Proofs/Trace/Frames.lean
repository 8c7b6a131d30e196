import Mathlib.Algebra.Group.Nat.Defs
import TimedDataflow.Trace.Frame

/-! Frames of a byte stream. Stuffed bytes hold no flag, so each frame ends where its record
does, and a reader that sees a flag is in step again, whatever it read before.
-/

namespace TimedDataflow.Trace

/-- A number that fits into the bytes is read back from them. -/
theorem ofLowBytes_lowBytes {width value : Nat} (fits : value < 256 ^ width)
    : ofLowBytes (lowBytes width value) = value := by
  induction width generalizing value with
  | zero =>
      rw [Nat.pow_zero] at fits
      exact (Nat.lt_one_iff.mp fits).symm
  | succ width ih =>
      have high : value / 256 < 256 ^ width := by
        rw [Nat.pow_succ] at fits
        exact Nat.div_lt_of_lt_mul (by omega)
      rw [lowBytes, ofLowBytes, ih high, UInt8.toNat_ofNat']
      omega

/-- A time stamp is sent as whole microseconds, or as the greatest number that fits. -/
theorem Elapsed.toNat_microseconds (elapsed : Elapsed)
    : elapsed.microseconds.toNat
      = min ((elapsed.seconds * 1000000000 + elapsed.nanoseconds) / 1000) (2 ^ 32 - 1) := by
  have whole : elapsed.seconds * 1000000 + elapsed.nanoseconds / 1000
      = (elapsed.seconds * 1000000000 + elapsed.nanoseconds) / 1000 := by omega
  have bound : min ((elapsed.seconds * 1000000000 + elapsed.nanoseconds) / 1000)
      (UInt32.size - 1) < 2 ^ 32 := by
    rw [UInt32.size]
    omega
  have most : UInt32.size - 1 = 2 ^ 32 - 1 := rfl
  rw [microseconds, whole, UInt32.toNat_ofNat', Nat.mod_eq_of_lt bound, most]

namespace Frame

-----------------------------------------------------------------------------------------
-- Stuffing
-----------------------------------------------------------------------------------------

/-- No byte is sent as a flag. -/
theorem flag_notMem_stuffByte (byte : UInt8) : flag ∉ stuffByte byte := by
  unfold stuffByte
  split
  case isTrue special => rcases special with rfl | rfl <;> decide
  case isFalse plain =>
      rw [List.mem_singleton]
      exact fun same => plain (Or.inl same.symm)

/-- Stuffed bytes hold no flag. -/
theorem flag_notMem_stuff (bytes : List UInt8) : flag ∉ stuff bytes := by
  intro member
  obtain ⟨byte, -, inside⟩ := List.mem_flatMap.mp member
  exact flag_notMem_stuffByte byte inside

/-- Unstuffing reads one byte at a time from what it was sent as. -/
theorem unstuff_stuffByte (byte : UInt8) (rest : List UInt8)
    : unstuff (stuffByte byte ++ rest) = (unstuff rest).map (byte :: ·) := by
  unfold stuffByte
  split
  case isTrue special =>
      have back : byte ^^^ mask ^^^ mask = byte := by
        rw [UInt8.xor_assoc, UInt8.xor_self, UInt8.xor_zero]
      simp [unstuff, back]
  case isFalse plain =>
      obtain ⟨noFlag, noEscape⟩ := not_or.mp plain
      cases rest <;> simp [unstuff, noFlag, noEscape]

/-- Unstuffing undoes stuffing, by induction on the bytes. -/
theorem unstuff_stuff (bytes : List UInt8) : unstuff (stuff bytes) = .ok bytes := by
  induction bytes with
  | nil => rfl
  | cons byte rest ih =>
      have ahead : stuff (byte :: rest) = stuffByte byte ++ stuff rest := List.flatMap_cons
      rw [ahead, unstuff_stuffByte, ih]
      rfl

-----------------------------------------------------------------------------------------
-- One frame
-----------------------------------------------------------------------------------------

/-- The frame of a record without its flag. -/
def slice (record : Record) : List UInt8 :=
  stuff (content record ++ [checksum (content record)])

/-- The flag ends the frame. -/
theorem encode_eq (record : Record) : encode record = slice record ++ [flag] := rfl

/-- There is no flag before the end of a frame. -/
theorem flag_notMem_slice (record : Record) : flag ∉ slice record := flag_notMem_stuff _

/-- A frame is more than its flag. -/
theorem slice_ne_nil (record : Record) : slice record ≠ [] := by
  intro empty
  have read := unstuff_stuff (content record ++ [checksum (content record)])
  rw [show stuff _ = [] from empty] at read
  simp [unstuff] at read

/-- The header of a record is part of its content. -/
theorem headerLength_le_content (record : Record)
    : headerLength record.timestamp.isSome ≤ (content record).length := by
  unfold content
  cases record.timestamp with
  | none => simp [headerLength]
  | some elapsed => simp [headerLength]

/-- A content with its checksum is read as the record that it was made of. -/
theorem parse_content (record : Record)
    : parse record.timestamp.isSome (content record ++ [checksum (content record)])
      = .ok record.received := by
  have long := headerLength_le_content record
  simp only [parse, List.length_append, List.length_singleton, List.dropLast_concat,
    List.getLast?_concat]
  rw [if_neg (by omega), if_neg (by simp)]
  unfold content Record.received
  cases record.timestamp with
  | none => rfl
  | some elapsed =>
      have fits : elapsed.microseconds.toNat < 256 ^ 4 := by
        have bound := elapsed.microseconds.toNat_lt
        omega
      have stamp : UInt32.ofNat (ofLowBytes (lowBytes 4 elapsed.microseconds.toNat))
          = elapsed.microseconds := by
        rw [ofLowBytes_lowBytes fits, UInt32.ofNat_toNat]
      simp [stamp]

/-- A frame is read as its record. -/
theorem decode_encode (record : Record)
    : decode record.timestamp.isSome (encode record) = .ok record.received := by
  have whole : body (encode record) = slice record := by simp [body, encode_eq]
  rw [decode, whole, slice, unstuff_stuff]
  exact parse_content record

/-- So is a frame that has lost its flag. -/
theorem decode_slice (record : Record)
    : decode record.timestamp.isSome (slice record) = .ok record.received := by
  have whole : body (slice record) = slice record := by
    apply if_neg
    intro last
    exact flag_notMem_slice record (List.mem_of_getLast? last)
  rw [decode, whole, slice, unstuff_stuff]
  exact parse_content record

-----------------------------------------------------------------------------------------
-- Streams
-----------------------------------------------------------------------------------------

/-- There is always a piece, if only an empty one. -/
theorem pieces_ne_nil (stream : List UInt8) : pieces stream ≠ [] := by
  cases stream with
  | nil => simp [pieces]
  | cons byte rest =>
      unfold pieces
      split
      · simp
      · split <;> simp

/-- A flag parts the pieces in front of it from those behind, by induction on the bytes in
front.
-/
theorem pieces_append_flag (front back : List UInt8)
    : pieces (front ++ flag :: back) = pieces front ++ pieces back := by
  induction front with
  | nil => simp [pieces]
  | cons byte rest ih =>
      simp only [List.cons_append, pieces, ih]
      split
      · rfl
      · cases held : pieces rest with
        | nil => exact absurd held (pieces_ne_nil rest)
        | cons piece others => rfl

/-- Bytes without a flag are one piece, by induction on them. -/
theorem pieces_of_notMem {stream : List UInt8} (noFlag : flag ∉ stream)
    : pieces stream = [stream] := by
  induction stream with
  | nil => rfl
  | cons byte rest ih =>
      obtain ⟨first, others⟩ := not_or.mp fun held => noFlag (List.mem_cons.mpr held)
      simp [pieces, ih others, Ne.symm first]

/-- A flag parts the frames in front of it from those behind. -/
theorem split_append_flag (front back : List UInt8)
    : split (front ++ flag :: back) = split front ++ split back := by
  rw [split, pieces_append_flag, List.filter_append, split, split]

/-- The frame of a record is split off in front of a stream. -/
theorem split_encode_append (record : Record) (back : List UInt8)
    : split (encode record ++ back) = slice record :: split back := by
  have own : split (slice record) = [slice record] := by
    rw [split, pieces_of_notMem (flag_notMem_slice record)]
    simp [slice_ne_nil record]
  rw [encode_eq, List.append_assoc, List.singleton_append, split_append_flag, own]
  rfl

/-- Frames that follow one another are split one by one, by induction on the records. -/
theorem split_flatMap_encode (records : List Record)
    : split (records.flatMap encode) = records.map slice := by
  induction records with
  | nil => rfl
  | cons record rest ih =>
      rw [List.flatMap_cons, split_encode_append, ih, List.map_cons]

/-- Behind a flag a stream of frames is split into the frames of its records, one for each in
their order, whatever bytes came before. Each of them, with or without its flag, is read back
as its record by whoever knows whether the record was stamped; the stamp is then in whole
microseconds, as far as thirty-two bits reach.
-/
theorem stream_reads_back (garbage : List UInt8) (records : List Record)
    : split (garbage ++ flag :: records.flatMap encode) = split garbage ++ records.map slice
      ∧ ∀ record : Record,
          encode record = slice record ++ [flag]
          ∧ ∃ received,
              decode record.timestamp.isSome (slice record) = .ok received
              ∧ decode record.timestamp.isSome (encode record) = .ok received
              ∧ received.seq = record.seq
              ∧ received.kind = record.kind
              ∧ received.payload = record.payload
              ∧ received.microseconds.map UInt32.toNat
                = record.timestamp.map fun elapsed =>
                    min ((elapsed.seconds * 1000000000 + elapsed.nanoseconds) / 1000)
                      (2 ^ 32 - 1) := by
  refine ⟨?_, fun record => ⟨encode_eq record, record.received, ?_⟩⟩
  · rw [split_append_flag, split_flatMap_encode]
  · refine ⟨decode_slice record, decode_encode record, rfl, rfl, rfl, ?_⟩
    obtain ⟨seq, kind, timestamp, payload⟩ := record
    cases timestamp with
    | none => rfl
    | some elapsed => exact congrArg some elapsed.toNat_microseconds

/-- Two records whose bytes collide with flag and escape are found behind a torn frame. -/
example
    : split ([0x01, 0x7D] ++ flag :: (encode ⟨0x7E, 2, none, [0x7D]⟩
        ++ encode ⟨1, 0x7D, some ⟨0, 1500000⟩, []⟩))
      = [[0x01, 0x7D], slice ⟨0x7E, 2, none, [0x7D]⟩,
          slice ⟨1, 0x7D, some ⟨0, 1500000⟩, []⟩] := by
  decide

end Frame
end TimedDataflow.Trace
