/-! What can go wrong while trace records are written or read. -/

namespace TimedDataflow.Trace

/-- What is wrong with bytes that are no frame, or no fields. -/
inductive Malformation where
  | danglingEscape
  | unexpectedFlag
  | tooShort
  | checksumMismatch
  | truncatedField
  | unterminatedString
  | unknownFormat
deriving DecidableEq

def Malformation.text : Malformation → String
  | danglingEscape => "dangling escape byte"
  | unexpectedFlag => "unexpected flag inside frame"
  | tooShort => "frame too short"
  | checksumMismatch => "checksum mismatch"
  | truncatedField => "truncated field"
  | unterminatedString => "unterminated string field"
  | unknownFormat => "unknown field format"

/-- A record that was not written, or bytes that could not be read. -/
inductive TraceError where
  | payloadTooLarge (length : Nat)
  | backend (text : String)
  | frame (malformation : Malformation)
deriving DecidableEq

def TraceError.message : TraceError → String
  | payloadTooLarge length => "payload too large: " ++ toString length ++ " bytes"
  | backend text => "backend error: " ++ text
  | frame malformation => "malformed frame: " ++ malformation.text

end TimedDataflow.Trace
