import ChangeLog.Ident.Consumer
import ChangeLog.Ident.Uuid
/-
  Errors of reading identifiers and payloads: a payload that is not hexadecimal, an id of the
  wrong number of bytes, a cursor id that is not a UUID, and a text that is not a consumer
  name.
-/

namespace ChangeLog

/-- Why an identifier or payload text is refused. -/
inductive IdError where
  | invalidHex (e : Hex.Error)
  | invalidLength (expected actual : Nat)
  | invalidCursorId (text : String) (e : Uuid.Error)
  | invalidConsumerId (text : String) (p : ConsumerId.Problem)
  deriving DecidableEq, Repr

/-- The name of the kind of error. -/
def IdError.name : IdError → String
  | .invalidHex _ => "InvalidHex"
  | .invalidLength _ _ => "InvalidLength"
  | .invalidCursorId _ _ => "InvalidCursorId"
  | .invalidConsumerId _ _ => "InvalidConsumerId"

/-- The text of the error. -/
def IdError.message : IdError → String
  | .invalidHex e => "invalid hex string: " ++ e.message
  | .invalidLength e a =>
    "invalid byte length: expected " ++ toString e ++ ", got " ++ toString a
  | .invalidCursorId t e => "invalid cursor id: " ++ t ++ ": " ++ e.message
  | .invalidConsumerId t p => "invalid consumer id " ++ Text.quote t ++ ": " ++ p.text

/-- Checks a consumer name, as an identifier error. -/
def ConsumerId.ofText (s : String) : Except IdError ConsumerId :=
  (ConsumerId.parse s).mapError (.invalidConsumerId s)

end ChangeLog
