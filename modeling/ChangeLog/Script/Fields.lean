import ChangeLog.Json.Reader
import ChangeLog.Event.Basic
/-
  Reading the fields of a command. A command is a JSON object; each field has a kind and
  may have a default, which a missing or null field takes. A field of the wrong kind, or a
  missing field without default, makes the command malformed, and the message names the
  field and the kind it must have.
-/

namespace ChangeLog.Script

open Json

/-- A command's fields, as read from its JSON object. -/
structure Fields where
  value : Value

/-- The value of a field, unless it is missing. -/
def Fields.get? (f : Fields) (key : String) : Option Value := f.value.field? key

/-- The fields of an object held in a field, none when missing. -/
def Fields.sub? (f : Fields) (key : String) : Option Fields := (f.get? key).map Fields.mk

/-- The message for a field of the wrong kind. -/
def mustBe (key kind : String) : String := "field `" ++ key ++ "` must be " ++ kind

/-- A string field, with the default for a missing one. -/
def Fields.str (f : Fields) (key : String) (default : Option String := none) : Except String String :=
  match f.get? key, default with
  | some (.str s), _ => .ok s
  | none, some d | some .null, some d => .ok d
  | _, _ => .error (mustBe key "a string")

/-- A field holding a number from 0 to 2^64 - 1. -/
def Fields.u64 (f : Fields) (key : String) (default : Option Nat := none) : Except String Nat :=
  match f.get? key, default with
  | some (.int i), _ =>
    if 0 ≤ i ∧ i < 18446744073709551616 then .ok i.toNat else .error (mustBe key "a non-negative integer")
  | none, some d | some .null, some d => .ok d
  | _, _ => .error (mustBe key "a non-negative integer")

/-- A field holding a number from 0 to 2^32 - 1. -/
def Fields.u32 (f : Fields) (key : String) (default : Option Nat := none) : Except String Nat :=
  match f.get? key, default with
  | some (.int i), _ =>
    if 0 ≤ i ∧ i < 4294967296 then .ok i.toNat else .error (mustBe key "a non-negative integer")
  | none, some d | some .null, some d => .ok d
  | _, _ => .error (mustBe key "a non-negative integer")

/-- A field holding a number from -2^63 to 2^63 - 1. -/
def Fields.i64 (f : Fields) (key : String) (default : Option Int := none) : Except String Int :=
  match f.get? key, default with
  | some (.int i), _ =>
    if -9223372036854775808 ≤ i ∧ i < 9223372036854775808 then .ok i else .error (mustBe key "an integer")
  | none, some d | some .null, some d => .ok d
  | _, _ => .error (mustBe key "an integer")

/-- A boolean field, false when missing. -/
def Fields.flag (f : Fields) (key : String) : Except String Bool :=
  match f.get? key with
  | some (.bool b) => .ok b
  | none | some .null => .ok false
  | _ => .error (mustBe key "a boolean")

/-- A field holding hexadecimal bytes, empty when missing. -/
def Fields.hex (f : Fields) (key : String) : Except String Bytes := do
  let s ← f.str key (some "")
  match Hex.decode s with
  | .ok bs => .ok bs
  | .error e => .error ("field `" ++ key ++ "` is not hex: " ++ e.message)

/-- An optional string field: missing or null is none. -/
def Fields.optStr (f : Fields) (key : String) : Except String (Option String) :=
  match f.get? key with
  | none | some .null => .ok none
  | some (.str s) => .ok (some s)
  | _ => .error key

/-- An optional number field: missing or null is none. -/
def Fields.optU64 (f : Fields) (key : String) : Except String (Option Nat) :=
  match f.get? key with
  | none | some .null => .ok none
  | _ => some <$> f.u64 key

/-- An array field. -/
def Fields.list (f : Fields) (key : String) : Except String (List Value) :=
  match f.get? key with
  | some (.arr xs) => .ok xs
  | none => .ok []
  | _ => .error ("`" ++ key ++ "` must be an array")

/-- The fields of a new event: type, source, and the two images in hexadecimal. -/
def Fields.newEvent (f : Fields) : Except String NewEvent := do
  let eventType ← f.str "event_type" (some "")
  let source ← f.str "source" (some "")
  let before ← f.hex "before"
  let after ← f.hex "after"
  pure { eventType, source, before, after }

end ChangeLog.Script
