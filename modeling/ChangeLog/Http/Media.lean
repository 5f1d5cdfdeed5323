/-
  Media types as a Content-Type header gives them: a type, a slash, a subtype, and
  parameters after semicolons. Type and subtype are tokens, the type not empty; a plus
  inside the subtype (not at its start) begins a suffix, the last plus counting. A
  parameter is a name, an equals sign and a value that is a token or a quoted string; a
  blank may open a parameter, and blanks may follow a quoted value. Header values hold only
  tabs and visible ASCII. Names compare without regard to case.
-/

namespace ChangeLog.Http

/-- A media type: its type, its subtype before any suffix, and the suffix, all in lower case. -/
structure MediaType where
  type : String
  subtype : String
  suffix : Option String
  deriving DecidableEq, Repr

/-- The characters of a token. -/
def isTokenChar (c : Char) : Bool :=
  c.isAlphanum || "!#$%&'*+-.^_`|~".toList.contains c

/-- The characters a quoted parameter value may hold. -/
def isQuotedChar (c : Char) : Bool := c.toNat > 31 && c.toNat ≠ 127

/-- Where the reading of parameters stands. -/
inductive ParamState where
  /-- At the start of a parameter, where a blank may stand. -/
  | nameStart
  /-- Inside a name. -/
  | name
  /-- Right after the equals sign. -/
  | valueStart
  /-- Inside a plain value. -/
  | value
  /-- Right after the opening quote of a value. -/
  | quotedStart
  /-- Inside a quoted value. -/
  | quoted
  /-- After the closing quote, where blanks may stand. -/
  | afterQuote
  deriving DecidableEq

/-- The next state after a character, or none when the character is refused. -/
def ParamState.step : ParamState → Char → Option ParamState
  | .nameStart, c => if c = ' ' then some .nameStart else if isTokenChar c then some .name else none
  | .name, c => if isTokenChar c then some .name else if c = '=' then some .valueStart else none
  | .valueStart, c =>
    if c = '"' then some .quotedStart else if isTokenChar c then some .value else none
  | .value, c => if isTokenChar c then some .value else if c = ';' then some .nameStart else none
  -- a quote right after the opening one is taken as a character of the value
  | .quotedStart, c => if isQuotedChar c then some .quoted else none
  | .quoted, c =>
    if c = '"' then some .afterQuote else if isQuotedChar c then some .quoted else none
  | .afterQuote, c =>
    if c = ';' then some .nameStart else if c = ' ' then some .afterQuote else none

/-- Whether parameters may end in a state. -/
def ParamState.canEnd : ParamState → Bool
  | .nameStart | .valueStart | .value | .afterQuote => true
  | .name | .quotedStart | .quoted => false

/-- Whether the text after the first semicolon is a list of parameters. -/
def paramsValid : ParamState → List Char → Bool
  | s, [] => s.canEnd
  | s, c :: rest =>
    match s.step c with
    | some s' => paramsValid s' rest
    | none => false

/-- Reads the type up to its slash: the type and what follows the slash. -/
def readType : List Char → List Char → Option (List Char × List Char)
  | _, [] => none
  | acc, c :: rest =>
    if isTokenChar c then readType (c :: acc) rest
    else if c = '/' && !acc.isEmpty then some (acc.reverse, rest)
    else none

/-- Reads the subtype with its suffix, up to the end or a semicolon, and checks the
parameters after a semicolon. A plus or semicolon at the very start is an ordinary
character or a refusal. -/
def readSubtype : List Char → Option (List Char) → List Char → Option (List Char × Option (List Char))
  | acc, plus, [] => some (acc.reverse, plus.map List.reverse)
  | acc, plus, c :: rest =>
    let started := !acc.isEmpty || plus.isSome
    if c = '+' && started then
      -- a later plus begins the suffix again, taking what came before into the subtype
      let acc := match plus with
        | some p => p ++ ['+'] ++ acc
        | none => acc
      readSubtype acc (some []) rest
    else if c = ';' && started then
      if paramsValid .nameStart rest then some (acc.reverse, plus.map List.reverse) else none
    else if isTokenChar c then
      match plus with
      | some p => readSubtype acc (some (c :: p)) rest
      | none => readSubtype (c :: acc) none rest
    else none

/-- Reads a media type from a header value. -/
def MediaType.parse (s : String) : Option MediaType :=
  let cs := s.toList
  if !cs.all (fun c => c = '\t' || (0x20 ≤ c.toNat && c.toNat ≤ 0x7E)) then none
  else
    match readType [] cs with
    | none => none
    | some (ty, rest) =>
      match readSubtype [] none rest with
      | none => none
      | some (sub, suffix) =>
        let lower (l : List Char) : String := (String.ofList l).toLower
        some ⟨lower ty, lower sub, suffix.map lower⟩

/-- Whether a media type is JSON: the type application with the subtype json or the
suffix json. -/
def MediaType.isJson (m : MediaType) : Bool :=
  m.type = "application" && (m.subtype = "json" || m.suffix = some "json")

end ChangeLog.Http
