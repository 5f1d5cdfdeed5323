import ChangeLog.Http.Target
import ChangeLog.Text.Number
/-
  Query strings: pairs separated by ampersands, a name and a value split at the first
  equals sign, plus signs standing for spaces and percent escapes decoded. A query is read
  into named fields in the order of its pairs: a field given twice, or whose value does not
  read, is refused at once, and a required field that is missing is refused at the end.
  Numbers read as decimal text, as the number readers say.
-/

namespace ChangeLog.Http

/-- The name-value pairs of a query. -/
def pairs (q : String) : List (String × String) :=
  let decode (s : String) := percentDecodeLossy (String.ofList (s.toList.map fun c => if c = '+' then ' ' else c))
  (q.splitOn "&").filterMap fun piece =>
    if piece.isEmpty then none
    else
      match piece.splitOn "=" with
      | [] => none
      | [name] => some (decode name, "")
      | name :: rest => some (decode name, decode ("=".intercalate rest))

/-- The kinds of query field. -/
inductive FieldKind where
  | signed
  | unsigned
  | text
  deriving DecidableEq, Repr

/-- A field of a query. -/
structure QueryField where
  name : String
  kind : FieldKind
  required : Bool

/-- The value of a query field. -/
inductive QueryValue where
  | int (i : Int)
  | text (s : String)
  deriving DecidableEq, Repr

/-- Reads the pairs of a query into fields. -/
def readFields (fields : List QueryField) :
    List (String × String) → List (String × QueryValue) → Except String (List (String × QueryValue))
  | [], acc =>
    match fields.find? (fun f => f.required && !acc.any (·.1 = f.name)) with
    | some f => .error ("missing field `" ++ f.name ++ "`")
    | none => .ok acc
  | (k, v) :: rest, acc =>
    match fields.find? (·.name = k) with
    | none => readFields fields rest acc
    | some f =>
      if acc.any (·.1 = k) then .error ("duplicate field `" ++ k ++ "`")
      else
        let parsed : Except NumberFault QueryValue := match f.kind with
          | .signed => (readSigned v).map .int
          | .unsigned => (readUnsigned v).map fun n => .int n
          | .text => .ok (.text v)
        match parsed with
        | .error e => .error e.message
        | .ok x => readFields fields rest (acc ++ [(k, x)])

/-- Reads a query, absent or given, into fields. -/
def readQuery (fields : List QueryField) (q : Option String) :
    Except String (List (String × QueryValue)) :=
  readFields fields (pairs (q.getD "")) []

/-- The number a read query holds for a field. -/
def intField? (vs : List (String × QueryValue)) (name : String) : Option Int :=
  match vs.find? (·.1 = name) with
  | some (_, .int i) => some i
  | _ => none

/-- The text a read query holds for a field. -/
def textField? (vs : List (String × QueryValue)) (name : String) : Option String :=
  match vs.find? (·.1 = name) with
  | some (_, .text s) => some s
  | _ => none

end ChangeLog.Http
