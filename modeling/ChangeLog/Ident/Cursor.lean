import ChangeLog.Ident.Error
/-
  Cursor ids: UUIDs of version 7, whose first 48 bits are a time in milliseconds and whose
  remaining bits, apart from version and variant, are chosen to make the id unique. Cursors
  are shown by the first eight characters of the text.
-/

namespace ChangeLog

/-- The id of a cursor. -/
structure CursorId where
  uuid : Uuid

namespace CursorId

instance : DecidableEq CursorId := fun a b =>
  if h : a.uuid.bytes = b.uuid.bytes then
    isTrue (by
      obtain ⟨⟨ab, ah⟩⟩ := a
      obtain ⟨⟨bb, bh⟩⟩ := b
      cases h; rfl)
  else isFalse (fun e => h (e ▸ rfl))

/-- The hyphenated text. -/
def toText (c : CursorId) : String := c.uuid.toText

/-- The first eight characters of the text. -/
def short (c : CursorId) : String := String.ofList (c.toText.toList.take 8)

/-- Reads a cursor id from a UUID text. -/
def ofText (s : String) : Except IdError CursorId :=
  match Uuid.parse s with
  | .ok u => .ok ⟨u⟩
  | .error e => .error (.invalidCursorId s e)

/-- The big-endian bytes of a number, count of them. -/
def bigEndian : Nat → Nat → Bytes
  | 0, _ => []
  | k + 1, n => bigEndian k (n / 256) ++ [(n % 256).toUInt8]

theorem bigEndian_length (k n : Nat) : (bigEndian k n).length = k := by
  induction k generalizing n with
  | zero => rfl
  | succ k ih => simp [bigEndian, ih]

/-- The version-7 id with this time in milliseconds and these 74 further bits. -/
def version7 (millis : Nat) (rand : Nat) : CursorId :=
  let randA := (rand / 4611686018427387904) % 4096
  let randB := rand % 4611686018427387904
  let hi := (millis % 281474976710656) * 65536 + 0x7000 + randA
  let lo := 9223372036854775808 + randB
  ⟨⟨bigEndian 8 hi ++ bigEndian 8 lo, by simp [bigEndian_length]⟩⟩

/-- The n-th id handed out from a starting time: one millisecond apart, with bits spread
from the count. -/
def nth (start : Nat) (n : Nat) : CursorId :=
  version7 (start + n) ((n + 1) * 0x9E3779B97F4A7C15 % 18889465931478580854784)

end CursorId
end ChangeLog
