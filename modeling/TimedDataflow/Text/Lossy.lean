/-! Reading bytes as UTF-8 text, with replacement characters where they are none. -/

namespace TimedDataflow.Text

/-- How many bytes the character takes that starts with this byte, and which bytes may
come second; nothing for a byte that starts no character.
-/
def lead? (byte : UInt8) : Option (Nat × UInt8 × UInt8) :=
  if byte < 0x80 then some (1, 0x80, 0xBF)
  else if 0xC2 ≤ byte && byte ≤ 0xDF then some (2, 0x80, 0xBF)
  else if byte = 0xE0 then some (3, 0xA0, 0xBF)
  else if byte = 0xED then some (3, 0x80, 0x9F)
  else if 0xE1 ≤ byte && byte ≤ 0xEF then some (3, 0x80, 0xBF)
  else if byte = 0xF0 then some (4, 0x90, 0xBF)
  else if 0xF1 ≤ byte && byte ≤ 0xF3 then some (4, 0x80, 0xBF)
  else if byte = 0xF4 then some (4, 0x80, 0x8F)
  else none

/-- The code point of a complete character. -/
def codePoint : List UInt8 → Nat
  | [a] => a.toNat
  | [a, b] => a.toNat % 32 * 64 + b.toNat % 64
  | [a, b, c] => (a.toNat % 16 * 64 + b.toNat % 64) * 64 + c.toNat % 64
  | [a, b, c, d] =>
      ((a.toNat % 8 * 64 + b.toNat % 64) * 64 + c.toNat % 64) * 64 + d.toNat % 64
  | _ => 0xFFFD

/-- How many of the next bytes, at most `wanted`, may stand behind a first byte. The
second byte of a character has bounds of its own.
-/
def followers (wanted : Nat) (low high : UInt8) : List UInt8 → Nat
  | [] => 0
  | byte :: rest =>
      match wanted with
      | 0 => 0
      | more + 1 =>
          if low ≤ byte && byte ≤ high then 1 + followers more 0x80 0xBF rest else 0

/-- Characters of the bytes, read with the given number of steps. Every longest start of
a character that is not completed, and every byte that starts none, is replaced by one
replacement character.
-/
def characters : Nat → List UInt8 → List Char
  | 0, _ => []
  | _, [] => []
  | steps + 1, byte :: rest =>
      match lead? byte with
      | none => '\uFFFD' :: characters steps rest
      | some (width, low, high) =>
          let found := followers (width - 1) low high rest
          let character :=
            if found + 1 = width then Char.ofNat (codePoint (byte :: rest.take found))
            else '\uFFFD'
          character :: characters steps (rest.drop found)

/-- The text of the bytes. Valid UTF-8 is read as it stands. -/
def ofBytes (bytes : List UInt8) : String :=
  match String.fromUTF8? bytes.toByteArray with
  | some text => text
  | none => String.ofList (characters bytes.length bytes)

/-- The UTF-8 form of a text. -/
def toBytes (text : String) : List UInt8 := text.toUTF8.data.toList

end TimedDataflow.Text
