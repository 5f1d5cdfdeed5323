import ChangeLog.Text.Quoted
import ChangeLog.Binary64.Shortest
/-
  JSON values and their two written forms. Objects keep their fields in the order given, so
  a record prints its fields in declaration order; a value built from a sorted map is built
  sorted. The compact form has no blanks; the pretty form indents by two spaces and puts a
  blank after each colon. Strings escape the quote, the backslash and the control
  characters below 0x20, and nothing else. A float is written with the fewest digits that
  read back, and as null when it is not finite.
-/

namespace ChangeLog.Json

/-- A JSON value. -/
inductive Value where
  | null
  | bool (b : Bool)
  | int (i : Int)
  | float (x : Binary64)
  | str (s : String)
  | arr (items : List Value)
  | obj (fields : List (String × Value))
  deriving Repr, Inhabited

namespace Value

/-- A natural number as a JSON integer. -/
def nat (n : Nat) : Value := .int n

/-- An optional natural number, null when absent. -/
def natOpt : Option Nat → Value
  | some n => .int n
  | none => .null

/-- An optional string, null when absent. -/
def strOpt : Option String → Value
  | some s => .str s
  | none => .null

/-- The field of an object with this key; the last one when a key repeats. -/
def field? (v : Value) (key : String) : Option Value :=
  match v with
  | .obj fields => (fields.reverse.find? (·.1 == key)).map (·.2)
  | _ => none

end Value

/-- The escape of one character inside a written string. -/
def escapeChar (c : Char) : String :=
  if c = '"' then "\\\""
  else if c = '\\' then "\\\\"
  else if c = '\n' then "\\n"
  else if c = '\r' then "\\r"
  else if c = '\t' then "\\t"
  else if c.toNat = 8 then "\\b"
  else if c.toNat = 12 then "\\f"
  else if c.toNat < 0x20 then
    "\\u00" ++ String.ofList [Text.hexDigits (c.toNat / 16) |>.front, Text.hexDigits (c.toNat % 16) |>.front]
  else c.toString

/-- A string in its written form, quotes included. -/
def writeString (s : String) : String :=
  "\"" ++ String.join (s.toList.map escapeChar) ++ "\""

/-- The written form of a float: an infinity or a value that is not a number is written
null. -/
def floatText : Binary64 → String
  | .finite negative m q => Binary64.jsonText negative m q
  | _ => "null"

mutual

/-- The compact written form of a value. -/
def Value.compact : Value → String
  | .null => "null"
  | .bool b => if b then "true" else "false"
  | .int i => toString i
  | .float x => floatText x
  | .str s => writeString s
  | .arr items => "[" ++ compactItems items ++ "]"
  | .obj fields => "\x7b" ++ compactFields fields ++ "\x7d"

/-- Compact items, separated by commas. -/
def compactItems : List Value → String
  | [] => ""
  | [v] => v.compact
  | v :: rest => v.compact ++ "," ++ compactItems rest

/-- Compact fields, separated by commas. -/
def compactFields : List (String × Value) → String
  | [] => ""
  | [(k, v)] => writeString k ++ ":" ++ v.compact
  | (k, v) :: rest => writeString k ++ ":" ++ v.compact ++ "," ++ compactFields rest

end

/-- A line break followed by indentation for the given depth. -/
def indentLine (depth : Nat) : String :=
  "\n" ++ String.ofList (List.replicate (2 * depth) ' ')

mutual

/-- The pretty written form of a value at a nesting depth. -/
def Value.prettyAt (depth : Nat) : Value → String
  | .arr [] => "[]"
  | .obj [] => "\x7b\x7d"
  | .arr items => "[" ++ prettyItems (depth + 1) items ++ indentLine depth ++ "]"
  | .obj fields => "\x7b" ++ prettyFields (depth + 1) fields ++ indentLine depth ++ "\x7d"
  | v => v.compact

/-- Pretty items, each on its own line. -/
def prettyItems (depth : Nat) : List Value → String
  | [] => ""
  | [v] => indentLine depth ++ v.prettyAt depth
  | v :: rest => indentLine depth ++ v.prettyAt depth ++ "," ++ prettyItems depth rest

/-- Pretty fields, each on its own line. -/
def prettyFields (depth : Nat) : List (String × Value) → String
  | [] => ""
  | [(k, v)] => indentLine depth ++ writeString k ++ ": " ++ v.prettyAt depth
  | (k, v) :: rest =>
    indentLine depth ++ writeString k ++ ": " ++ v.prettyAt depth ++ "," ++ prettyFields depth rest

end

/-- The pretty written form of a value. -/
def Value.pretty (v : Value) : String := v.prettyAt 0

end ChangeLog.Json
