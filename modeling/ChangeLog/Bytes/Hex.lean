import ChangeLog.Text.Quoted
/-
  Hexadecimal text for byte strings. Writing gives two lower-case digits per byte. Reading
  takes digits of either case, refuses a text of odd length before looking at any digit, and
  otherwise reports the first character that is not a digit with its position; a character
  is read as one byte, so a byte of a multi-byte character is reported as a Latin-1 letter.
-/

namespace ChangeLog

/-- Byte strings, first byte first. -/
abbrev Bytes := List UInt8

namespace Hex

/-- Why a text is not hexadecimal. -/
inductive Error where
  /-- The text has an odd number of bytes. -/
  | oddLength
  /-- The byte at this position is not a hexadecimal digit. -/
  | invalidChar (byte : UInt8) (position : Nat)
  deriving DecidableEq, Repr

/-- The text of a hexadecimal error. -/
def Error.message : Error → String
  | .oddLength => "Odd number of digits"
  | .invalidChar b i =>
    "Invalid character " ++ Text.quoteChar (Char.ofNat b.toNat) ++ " at position " ++ toString i

/-- The digit for a value below 16. -/
def digit (n : Nat) : Char :=
  if n < 10 then Char.ofNat (48 + n) else Char.ofNat (87 + n)

/-- Two lower-case digits for one byte. -/
def byteText (b : UInt8) : String :=
  String.ofList [digit (b.toNat / 16), digit (b.toNat % 16)]

/-- Lower-case hexadecimal text of a byte string. -/
def encode (bs : Bytes) : String :=
  String.join (bs.map byteText)

/-- The value of one hexadecimal digit byte, either case. -/
def value? (b : UInt8) : Option UInt8 :=
  if 48 ≤ b && b ≤ 57 then some (b - 48)
  else if 97 ≤ b && b ≤ 102 then some (b - 87)
  else if 65 ≤ b && b ≤ 70 then some (b - 55)
  else none

/-- Reads digit pairs, the first of them at position i. -/
def decodePairs : Bytes → Nat → Except Error Bytes
  | hi :: lo :: rest, i =>
    match value? hi, value? lo with
    | some h, some l => do
      let tail ← decodePairs rest (i + 2)
      pure ((h <<< 4 ||| l) :: tail)
    | none, _ => .error (.invalidChar hi i)
    | some _, none => .error (.invalidChar lo (i + 1))
  | _, _ => pure []

/-- Reads hexadecimal digits given as bytes. -/
def decodeBytes (bs : Bytes) : Except Error Bytes :=
  if bs.length % 2 = 1 then .error .oddLength else decodePairs bs 0

/-- Reads a hexadecimal text. -/
def decode (s : String) : Except Error Bytes :=
  decodeBytes s.toUTF8.toList

end Hex
end ChangeLog
