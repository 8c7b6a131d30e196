import TimedDataflow.Text.Lossy
import TimedDataflow.Trace.Error

/-! Payload fields of trace records: a format byte, then the value with its low bytes
first.
-/

namespace TimedDataflow.Trace

/-- One field of a payload. Floats and times are given by their binary64 words. -/
inductive Field where
  | u8 (value : UInt8)
  | u16 (value : UInt16)
  | u32 (value : UInt32)
  | f64 (bits : UInt64)
  | text (value : String)
  | receiver (number : UInt32)
  | time (bits : UInt64)
deriving DecidableEq

/-- The lowest bytes of a number, low bytes first. -/
def lowBytes : Nat → Nat → List UInt8
  | 0, _ => []
  | width + 1, value => UInt8.ofNat value :: lowBytes width (value / 256)

/-- The number with these bytes, low bytes first. -/
def ofLowBytes : List UInt8 → Nat
  | [] => 0
  | byte :: rest => byte.toNat + 256 * ofLowBytes rest

@[simp]
theorem length_lowBytes (width value : Nat) : (lowBytes width value).length = width := by
  induction width generalizing value with
  | zero => rfl
  | succ width ih => simp [lowBytes, ih]

namespace Field

/-- The bytes of a field. Text ends with a NUL. -/
def bytes : Field → List UInt8
  | u8 value => 0x01 :: lowBytes 1 value.toNat
  | u16 value => 0x03 :: lowBytes 2 value.toNat
  | u32 value => 0x05 :: lowBytes 4 value.toNat
  | f64 bits => 0x07 :: lowBytes 8 bits.toNat
  | text value => 0x08 :: (Text.toBytes value ++ [0])
  | receiver number => 0x0B :: lowBytes 4 number.toNat
  | time bits => 0x0E :: lowBytes 8 bits.toNat

/-- A field of fixed width, or the bytes unread when there are too few. -/
def readFixed (width : Nat) (field : Nat → Field) (bytes : List UInt8)
    : Except Malformation Field × List UInt8 :=
  let taken := bytes.take width
  if taken.length = width then (.ok (field (ofLowBytes taken)), bytes.drop width)
  else (.error .truncatedField, bytes)

/-- The bytes before the first NUL and those behind it. -/
def cutAtNul : List UInt8 → Option (List UInt8 × List UInt8)
  | [] => none
  | byte :: rest =>
      if byte = 0 then some ([], rest)
      else (cutAtNul rest).map fun cut => (byte :: cut.1, cut.2)

def readText (bytes : List UInt8) : Except Malformation Field × List UInt8 :=
  match cutAtNul bytes with
  | some (before, behind) => (.ok (.text (Text.ofBytes before)), behind)
  | none => (.error .unterminatedString, bytes)

/-- The value that a format byte announces. -/
def readValue (format : UInt8) (bytes : List UInt8)
    : Except Malformation Field × List UInt8 :=
  match format.toNat with
  | 0x01 => readFixed 1 (fun value => .u8 (.ofNat value)) bytes
  | 0x03 => readFixed 2 (fun value => .u16 (.ofNat value)) bytes
  | 0x05 => readFixed 4 (fun value => .u32 (.ofNat value)) bytes
  | 0x07 => readFixed 8 (fun value => .f64 (.ofNat value)) bytes
  | 0x08 => readText bytes
  | 0x0B => readFixed 4 (fun value => .receiver (.ofNat value)) bytes
  | 0x0E => readFixed 8 (fun value => .time (.ofNat value)) bytes
  | _ => (.error .unknownFormat, bytes)

/-- The next field and the bytes behind it, or nothing at the end. A field that cannot be
read uses up its format byte only.
-/
def next? : List UInt8 → Option (Except Malformation Field × List UInt8)
  | [] => none
  | format :: rest => some (readValue format rest)

theorem cutAtNul_shorter {bytes before behind : List UInt8}
    (cut : cutAtNul bytes = some (before, behind))
    : behind.length ≤ bytes.length := by
  induction bytes generalizing before with
  | nil => simp [cutAtNul] at cut
  | cons byte rest ih =>
      simp only [cutAtNul] at cut
      split at cut
      · obtain ⟨_, rfl⟩ := by simpa using cut
        simp
      · obtain ⟨⟨left, right⟩, inner, equal⟩ := Option.map_eq_some_iff.mp cut
        simp only [Prod.mk.injEq] at equal
        obtain ⟨_, rfl⟩ := equal
        have := ih inner
        simp only [List.length_cons]
        omega

theorem readValue_shorter (format : UInt8) (bytes : List UInt8)
    : (readValue format bytes).2.length ≤ bytes.length := by
  have fixed : ∀ width field, (readFixed width field bytes).2.length ≤ bytes.length := by
    intro width field
    simp only [readFixed]
    split <;> simp
  simp only [readValue]
  split <;> first
    | exact fixed _ _
    | exact Nat.le_refl _
    | simp only [readText]
      split
      · rename_i cut
        exact cutAtNul_shorter cut
      · exact Nat.le_refl _

/-- Every step of a reader uses up at least one byte. -/
theorem next?_shorter {bytes rest : List UInt8} {result : Except Malformation Field}
    (step : next? bytes = some (result, rest))
    : rest.length < bytes.length := by
  cases bytes with
  | nil => simp [next?] at step
  | cons format tail =>
      have same : readValue format tail = (result, rest) := by simpa [next?] using step
      have bound : rest.length ≤ tail.length := by
        have shorter := readValue_shorter format tail
        rwa [same] at shorter
      simp only [List.length_cons]
      omega

/-- The answers of a reader that goes on behind every field it could not read. -/
def walk (bytes : List UInt8) : List (Except Malformation Field) :=
  match _step : next? bytes with
  | none => []
  | some (result, rest) => result :: walk rest
termination_by bytes.length
decreasing_by exact next?_shorter _step

/-- All fields of a payload, or what is wrong with the first one that cannot be read. -/
def readAll (bytes : List UInt8) : Except Malformation (List Field) :=
  match _step : next? bytes with
  | none => .ok []
  | some (.error malformation, _) => .error malformation
  | some (.ok field, rest) => (readAll rest).map (field :: ·)
termination_by bytes.length
decreasing_by exact next?_shorter _step

/-- The payload that holds the fields in their order. -/
def payload (fields : List Field) : List UInt8 := fields.flatMap bytes

end Field
end TimedDataflow.Trace
