import ChangeLog.Script.Fields
import ChangeLog.Ident.Cursor
/-
  Answers to commands. An answer is a JSON value; a failed command answers an object with
  the name of the error and its message, and a malformed command answers the name BadInput.
-/

namespace ChangeLog.Script

open Json

/-- An object of named fields. -/
def obj (fields : List (String × Value)) : Value := .obj fields

/-- The answer of an error, by its name and message. -/
def failure (name message : String) : Value :=
  obj [("error", .str name), ("message", .str message)]

/-- The answer of a malformed command. -/
def badInput (message : String) : Value := failure "BadInput" message

/-- The answer of a successful command without a result. -/
def okay : Value := obj [("ok", .bool true)]

/-- The answer of an identifier error. -/
def idFailure (e : IdError) : Value := failure e.name e.message

/-- Runs a reading of fields, answering a malformed command when it fails. -/
def withFields (r : Except String α) (k : α → Value) : Value :=
  match r with
  | .ok a => k a
  | .error m => badInput m

end ChangeLog.Script
