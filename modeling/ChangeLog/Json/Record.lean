import ChangeLog.Json.Reader
/-
  Records of string fields read from a JSON value that has already been read. An object
  gives its fields in the order of their keys; a list gives the fields in declaration order,
  and may stop early only where the remaining fields may be left out. Values that are not
  strings, lists that are too long, and missing fields are refused by name.
-/

namespace ChangeLog.Json

/-- Inserts a field into a list sorted by key, replacing a field of the same key. -/
def insertSorted (kv : String × Value) : List (String × Value) → List (String × Value)
  | [] => [kv]
  | (k, v) :: rest =>
    if kv.1 < k then kv :: (k, v) :: rest
    else if kv.1 = k then kv :: rest
    else (k, v) :: insertSorted kv rest

/-- The fields of an object by key, the last of a repeated key kept. -/
def sortFields (fields : List (String × Value)) : List (String × Value) :=
  fields.foldl (fun acc kv => insertSorted kv acc) []

/-- A string where a string is expected. -/
def Value.asText : Value → Except String String
  | .str s => .ok s
  | v => .error (invalidType v.unexpected "a string")

/-- Reads a record of string fields from a value. -/
def Value.toRecord (name : String) (specs : List FieldSpec) (v : Value) :
    Except String (List (String × String)) :=
  match v with
  | .obj fields => do
    let given ← (sortFields fields).filterMapM fun (k, x) =>
      if specs.any (·.name == k) then (x.asText).map (fun s => some (k, s)) else pure none
    Reader.fieldValue specs given
  | .arr items =>
    let rec go : List FieldSpec → List Value → Nat → Except String (List (String × String))
      | [], [], _ => .ok []
      | [], _ :: _, _ =>
        .error ("invalid length " ++ toString items.length ++ ", expected fewer elements in array")
      | s :: rest, [], i =>
        if s.optional then (go rest [] (i + 1)).map ((s.name, "") :: ·)
        else .error ("invalid length " ++ toString i ++ ", expected struct " ++ name ++ " with " ++
          toString specs.length ++ " elements")
      | s :: rest, x :: xs, i => do
        let t ← x.asText
        let r ← go rest xs (i + 1)
        pure ((s.name, t) :: r)
    go specs items 0
  | v => .error (invalidType v.unexpected ("struct " ++ name))

end ChangeLog.Json
