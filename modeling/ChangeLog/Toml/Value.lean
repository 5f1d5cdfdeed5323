import ChangeLog.Bytes.Hex
import ChangeLog.Binary64.Basic
/-
  TOML documents as read: values of the TOML kinds, and the top-level table as a list of
  entries in the order of their keys, each with the byte span a complaint about it points
  at. A float is the binary64 number nearest its decimal; a date or time keeps its text.
-/

namespace ChangeLog.Toml

/-- A byte range of the document, start included, end excluded. -/
structure Span where
  start : Nat
  stop : Nat
  deriving Repr, Inhabited

/-- Where an entry of a table was written: the span of its key, and the span of its value
when one piece of text wrote the value (tables that dotted keys or headers make on their
way have none). -/
structure Place where
  key : Span
  value : Option Span
  deriving Repr, Inhabited

/-- The span a complaint about an entry's value points at: the value's own, else the key's. -/
def Place.span (p : Place) : Span := p.value.getD p.key

/-- A TOML value. A table keeps, beside each value, where it was written. -/
inductive Value where
  | string (s : String)
  | integer (i : Int)
  | float (x : Binary64)
  | boolean (b : Bool)
  | datetime (text : String)
  | array (items : List Value)
  | table (entries : List (String × Value × Place))
  deriving Repr, Inhabited

/-- The name of a value's kind, as complaints about values written in place of tables
give it. -/
def Value.typeName : Value → String
  | .string _ => "string"
  | .integer _ => "integer"
  | .float _ => "float"
  | .boolean _ => "boolean"
  | .datetime _ => "datetime"
  | .array _ => "array"
  | .table _ => "inline table"

/-- One part of a key as written: its name, its text with any quotes, and its span. -/
structure Key where
  name : String
  text : String
  span : Span
  deriving Repr, Inhabited

/-- An entry of the top-level table: a key, its value, and the span a complaint about the
value points at. -/
structure Entry where
  key : String
  value : Value
  span : Span
  deriving Repr, Inhabited

/-- A document: the entries of its top-level table, in the order of their keys. -/
structure Document where
  entries : List Entry := []
  deriving Repr, Inhabited

end ChangeLog.Toml
