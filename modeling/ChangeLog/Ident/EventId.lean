import ChangeLog.Ident.Error
/-
  Event ids: 32 bytes, written as 64 lower-case hexadecimal digits and shown short by the
  first eight. Reading a text checks its hexadecimal first and its byte count after.
-/

namespace ChangeLog

/-- Thirty-two bytes naming an event. -/
structure EventId where
  bytes : Bytes
  size : bytes.length = 32

namespace EventId

instance : DecidableEq EventId := fun a b =>
  if h : a.bytes = b.bytes then isTrue (by cases a; cases b; cases h; rfl)
  else isFalse (fun e => h (e ▸ rfl))

/-- The 64-digit text. -/
def toHex (e : EventId) : String := Hex.encode e.bytes

/-- The first eight digits. -/
def short (e : EventId) : String := Hex.encode (e.bytes.take 4)

/-- An id from bytes, when there are exactly 32 of them. -/
def ofBytes (bs : Bytes) : Except IdError EventId :=
  if h : bs.length = 32 then .ok ⟨bs, h⟩ else .error (.invalidLength 32 bs.length)

/-- Reads an id from its hexadecimal text, either case. -/
def ofHex (s : String) : Except IdError EventId :=
  match Hex.decode s with
  | .ok bs => ofBytes bs
  | .error e => .error (.invalidHex e)

end EventId
end ChangeLog
