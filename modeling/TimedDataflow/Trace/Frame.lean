import TimedDataflow.Trace.Field

/-! Frames: records with a checksum, escaped so that the flag byte marks their end. -/

namespace TimedDataflow.Trace

/-- A span of clock time. -/
structure Elapsed where
  seconds : Nat
  nanoseconds : Nat
deriving DecidableEq

/-- Whole microseconds, as far as thirty-two bits reach. -/
def Elapsed.microseconds (elapsed : Elapsed) : UInt32 :=
  .ofNat (min (elapsed.seconds * 1000000 + elapsed.nanoseconds / 1000) (UInt32.size - 1))

/-- A trace record as it is sent. -/
structure Record where
  seq : UInt8
  kind : UInt8
  timestamp : Option Elapsed
  payload : List UInt8
deriving DecidableEq

/-- A trace record as it is received. -/
structure Received where
  seq : UInt8
  kind : UInt8
  microseconds : Option UInt32
  payload : List UInt8
deriving DecidableEq

/-- The record that a receiver of the frame sees. -/
def Record.received (record : Record) : Received where
  seq := record.seq
  kind := record.kind
  microseconds := record.timestamp.map Elapsed.microseconds
  payload := record.payload

namespace Frame

/-- The byte that ends a frame. -/
def flag : UInt8 := 0x7E

/-- The byte that announces an escaped byte. -/
def escape : UInt8 := 0x7D

/-- The bit by which an escaped byte is changed. -/
def mask : UInt8 := 0x20

/-- A byte as it is sent. -/
def stuffByte (byte : UInt8) : List UInt8 :=
  if byte = flag ∨ byte = escape then [escape, byte ^^^ mask] else [byte]

/-- Bytes as they are sent. -/
def stuff (bytes : List UInt8) : List UInt8 := bytes.flatMap stuffByte

/-- Bytes as they were before they were sent. -/
def unstuff : List UInt8 → Except Malformation (List UInt8)
  | [] => .ok []
  | byte :: rest =>
      if byte = escape then
        match rest with
        | [] => .error .danglingEscape
        | escaped :: behind => (unstuff behind).map ((escaped ^^^ mask) :: ·)
      else if byte = flag then .error .unexpectedFlag
      else (unstuff rest).map (byte :: ·)

/-- The complement of the wrapping sum of the bytes. -/
def checksum (bytes : List UInt8) : UInt8 := ~~~ bytes.foldl (· + ·) 0

/-- What a frame carries, without checksum and escapes. -/
def content (record : Record) : List UInt8 :=
  record.seq :: record.kind
    :: ((record.timestamp.map fun elapsed => lowBytes 4 elapsed.microseconds.toNat).getD []
      ++ record.payload)

/-- The frame of a record. -/
def encode (record : Record) : List UInt8 :=
  stuff (content record ++ [checksum (content record)]) ++ [flag]

/-- The frame without one flag at its end. -/
def body (frame : List UInt8) : List UInt8 :=
  if frame.getLast? = some flag then frame.dropLast else frame

/-- Bytes in front of the payload. -/
def headerLength (stamped : Bool) : Nat := if stamped then 6 else 2

/-- The record of unescaped bytes, the last of which is the checksum. -/
def parse (stamped : Bool) (raw : List UInt8) : Except Malformation Received :=
  if raw.length < headerLength stamped + 1 then .error .tooShort
  else
    let content := raw.dropLast
    if raw.getLast? ≠ some (checksum content) then .error .checksumMismatch
    else
      match content with
      | seq :: kind :: rest =>
          if stamped then
            .ok ⟨seq, kind, some (.ofNat (ofLowBytes (rest.take 4))), rest.drop 4⟩
          else .ok ⟨seq, kind, none, rest⟩
      | _ => .error .tooShort

/-- The record of a frame, with or without its flag. The layout does not tell whether the
record carries a time stamp, so the reader has to know.
-/
def decode (stamped : Bool) (frame : List UInt8) : Except Malformation Received :=
  match unstuff (body frame) with
  | .error malformation => .error malformation
  | .ok raw => parse stamped raw

/-- The pieces of a stream between flags, the empty ones included. -/
def pieces : List UInt8 → List (List UInt8)
  | [] => [[]]
  | byte :: rest =>
      if byte = flag then [] :: pieces rest
      else
        match pieces rest with
        | [] => [[byte]]
        | piece :: others => (byte :: piece) :: others

/-- The frames of a stream, without their flags. -/
def split (stream : List UInt8) : List (List UInt8) :=
  (pieces stream).filter fun piece => !piece.isEmpty

end Frame
end TimedDataflow.Trace
