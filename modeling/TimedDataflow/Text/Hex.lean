/-! Hexadecimal text in lower-case digits, the most significant digit first. -/

namespace TimedDataflow.Hex

/-- The character of a digit below sixteen. -/
def digit (value : Nat) : Char :=
  if value < 10 then Char.ofNat ('0'.toNat + value) else Char.ofNat ('a'.toNat + value - 10)

/-- The value of a digit in either case. -/
def digit? (c : Char) : Option Nat :=
  if '0' ≤ c ∧ c ≤ '9' then some (c.toNat - '0'.toNat)
  else if 'a' ≤ c ∧ c ≤ 'f' then some (c.toNat - 'a'.toNat + 10)
  else if 'A' ≤ c ∧ c ≤ 'F' then some (c.toNat - 'A'.toNat + 10)
  else none

/-- The lowest digits of a number, as many as the width says. -/
def digits : Nat → Nat → List Char
  | 0, _ => []
  | width + 1, value => digits width (value / 16) ++ [digit (value % 16)]

/-- The number that some digits spell; no digits spell zero. -/
def number? (text : List Char) : Option Nat :=
  text.foldlM (fun value c => (digit? c).map (value * 16 + ·)) 0

def ofWord (word : UInt64) : String := String.ofList (digits 16 word.toNat)

def word? (text : String) : Option UInt64 :=
  (number? text.toList).map fun value => .ofNat value

def ofBytes (bytes : List UInt8) : String :=
  String.ofList (bytes.flatMap fun byte => digits 2 byte.toNat)

/-- The bytes of pairs of digits. -/
def pairs? : List Char → Option (List UInt8)
  | [] => some []
  | high :: low :: rest => do
      let byte ← number? [high, low]
      return .ofNat byte :: (← pairs? rest)
  | [_] => none

def bytes? (text : String) : Option (List UInt8) := pairs? text.toList

end TimedDataflow.Hex
