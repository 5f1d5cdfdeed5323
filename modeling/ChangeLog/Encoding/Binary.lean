import ChangeLog.Bytes.Le
/-
  The binary record format: fields follow each other with no tags. An unsigned or signed
  integer is its fixed number of little-endian bytes; a byte string or text is its length
  as eight bytes, then its bytes; an optional value is a byte 0, or a byte 1 and the value;
  a choice between variants is the variant's number as four bytes, then its fields. Reading
  takes fields from the front and leaves what follows, so a record may be followed by other
  bytes.
-/

namespace ChangeLog.Binary

/-- A length-prefixed byte string. -/
def bytes (bs : Bytes) : Bytes := Le.u64 bs.length ++ bs

/-- A length-prefixed text. -/
def text (s : String) : Bytes := bytes s.toUTF8.toList

/-- An optional 64-bit number. -/
def optU64 : Option Nat → Bytes
  | none => [0]
  | some n => 1 :: Le.u64 n

/-- A reader of fields: takes the front of a byte string, gives a value and the rest. -/
abbrev Reader (α : Type) := StateT Bytes Option α

/-- Takes exactly n bytes. -/
def take (n : Nat) : Reader Bytes := fun bs =>
  if n ≤ bs.length then some (bs.take n, bs.drop n) else none

/-- Reads an unsigned number of k bytes. -/
def readNat (k : Nat) : Reader Nat := do
  let bs ← take k
  pure (Le.value bs)

/-- Reads a 64-bit unsigned number. -/
def readU64 : Reader Nat := readNat 8

/-- Reads a 32-bit unsigned number. -/
def readU32 : Reader Nat := readNat 4

/-- Reads a 64-bit signed number. -/
def readI64 : Reader Int := do
  let n ← readNat 8
  pure (if n < 9223372036854775808 then (n : Int) else (n : Int) - 18446744073709551616)

/-- Reads a length-prefixed byte string. -/
def readBytes : Reader Bytes := do
  let n ← readU64
  take n

/-- Reads a length-prefixed text, which must be UTF-8. -/
def readText : Reader String := do
  let bs ← readBytes
  match String.fromUTF8? (ByteArray.mk bs.toArray) with
  | some s => pure s
  | none => failure

/-- Reads an optional 64-bit number. -/
def readOptU64 : Reader (Option Nat) := do
  let tag ← readNat 1
  if tag = 0 then pure none
  else if tag = 1 then some <$> readU64
  else failure

/-- Reads a value from the front of a byte string, allowing bytes after it. -/
def decode (r : Reader α) (bs : Bytes) : Option α :=
  (r bs).map (·.1)

theorem take_append (xs ys : Bytes) : take xs.length (xs ++ ys) = some (xs, ys) := by
  simp [take]

end ChangeLog.Binary
