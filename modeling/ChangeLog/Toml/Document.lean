import ChangeLog.Toml.Reader
import ChangeLog.Toml.Writer
/-
  Reading a whole TOML document: lines of key-value pairs, table headers and comments.

  The reader keeps the tables built so far and, apart from them, the table that the last
  header opened, which takes the pairs below it and joins the others at the next header or
  at the end. Tables come in kinds: one a header named, one made on the way to another
  (implicit), and one a dotted key made. A header may name a table only once, and may
  reopen only an implicit table that no dotted key made; a dotted key may extend only the
  tables dotted keys made. A header's table spans the header and stretches to the end of
  each value placed in it.

  The top-level table lists its keys in order. A header that takes over an implicit table
  moves it to the end.
-/

namespace ChangeLog.Toml

open Parse

/-- How a table of the document came to be. -/
structure TableKind where
  /-- Made on the way to another table or key, by no header of its own. -/
  implicit : Bool
  /-- Made by a dotted key. -/
  dotted : Bool

/-- An entry of the document's tables, as the reader builds them. -/
inductive Node where
  /-- A value written after an equals sign, with its span. -/
  | value (v : Value) (span : Span)
  /-- A table, with its kind, its span when a header wrote it, and its entries with the keys
  that made them. -/
  | table (kind : TableKind) (span : Option Span) (entries : List (Key × Node))
  /-- An array of tables, each opened by a double-bracket header. -/
  | tables (span : Option Span) (items : List Node)
  deriving Inhabited

/-- The span of a node, when one piece of text wrote it. -/
def Node.span : Node → Option Span
  | .value _ s => some s
  | .table _ s _ => s
  | .tables s _ => s

mutual

/-- The value a node stands for. -/
def Node.toValue : Node → Value
  | .value v _ => v
  | .table _ _ entries => .table (entriesToValue entries)
  | .tables _ items => .array (itemsToValue items)

/-- The entries of a table as values, with where each was written. -/
def entriesToValue : List (Key × Node) → List (String × Value × Place)
  | [] => []
  | (k, n) :: rest => (k.name, n.toValue, ⟨k.span, n.span⟩) :: entriesToValue rest

/-- The tables of an array as values. -/
def itemsToValue : List Node → List Value
  | [] => []
  | n :: rest => n.toValue :: itemsToValue rest

end

/-- The span of an array of tables: from its first table to its last. -/
def arraySpan (items : List Node) : Option Span :=
  match items.head?.bind Node.span, items.getLast?.bind Node.span with
  | some a, some z => some ⟨a.start, z.stop⟩
  | _, _ => none

/-- Puts an entry in place of the one of the same name. -/
def replaceEntry (entries : List (Key × Node)) (name : String) (e : Key × Node) :
    List (Key × Node) :=
  entries.map fun x => if x.1.name = name then e else x

/-- The complaint about a key that a table already holds. -/
def duplicateIn (key : String) (table : List String) : String :=
  "duplicate key `" ++ key ++ "` in " ++
    (if table.isEmpty then "document root" else "table `" ++ ".".intercalate table ++ "`")

/-- Walks a path of keys down from a table and changes the table at its end; the change is
told whether that table was made by a dotted key and may give a result. Missing keys get
implicit tables, dotted ones when a dotted key walks. A value on the way is refused, and so
is a table a header named when a dotted key walks; an array of tables leads into its last
table. -/
def descend {α : Type} (dotted : Bool)
    (change : Bool → List (Key × Node) → Except String (List (Key × Node) × α)) :
    List String → List Key → Bool → List (Key × Node) → Except String (List (Key × Node) × α)
  | _, [], isDotted, entries => change isDotted entries
  | done, k :: rest, _, entries =>
    let done := done ++ [k.name]
    match entries.find? (·.1.name = k.name) with
    | none => do
      let (sub, a) ← descend dotted change done rest dotted []
      pure (entries ++ [(k, .table ⟨true, dotted⟩ none sub)], a)
    | some (_, .value v _) => .error (extendMessage done v.typeName)
    | some (k0, .table kind span sub) =>
      if dotted && !kind.implicit then .error ("duplicate key `" ++ k.name ++ "`")
      else do
        let (sub', a) ← descend dotted change done rest kind.dotted sub
        pure (replaceEntry entries k.name (k0, .table kind span sub'), a)
    | some (k0, .tables span items) =>
      match items.getLast? with
      | some (.table kind s sub) => do
        let (sub', a) ← descend dotted change done rest kind.dotted sub
        pure (replaceEntry entries k.name (k0, .tables span (items.dropLast ++ [.table kind s sub'])),
          a)
      | _ => .error (extendMessage done "array")

/-- What the reader knows while it walks the document. -/
structure Builder where
  /-- The tables built so far. -/
  root : List (Key × Node) := []
  /-- The entries of the table that pairs go to now. -/
  current : List (Key × Node) := []
  /-- The span of that table. -/
  currentSpan : Option Span := some ⟨0, 0⟩
  /-- The path of its header; empty for the top level. -/
  currentPath : List Key := []
  /-- Whether that header opened an element of an array of tables. -/
  inArray : Bool := false

namespace Builder

/-- Places a pair in the current table at the end of its dotted path. -/
def onPair (b : Builder) (path : List Key) (k : Key) (v : Value) (span : Span) :
    Except String Builder := do
  let change (isDotted : Bool) (entries : List (Key × Node)) :
      Except String (List (Key × Node) × Unit) :=
    if isDotted = path.isEmpty then .error ("duplicate key `" ++ k.name ++ "`")
    else if entries.any (·.1.name = k.name) then
      .error (duplicateIn k.name (b.currentPath.map (·.name)))
    else .ok (entries ++ [(k, .value v span)], ())
  let (current, ()) ← descend true change [] path false b.current
  pure { b with current, currentSpan := b.currentSpan.map fun s => ⟨s.start, span.stop⟩ }

/-- Joins the current table to the tables built so far. -/
def finish (b : Builder) : Except String Builder := do
  match splitLast b.currentPath with
  | none => pure { b with root := b.current, current := [] }
  | some (parent, k) =>
    let table := Node.table ⟨false, false⟩ b.currentSpan b.current
    let dup := duplicateIn (keyText k.name) (parent.map (·.name))
    let change (_ : Bool) (entries : List (Key × Node)) :
        Except String (List (Key × Node) × Unit) :=
      match entries.find? (·.1.name = k.name), b.inArray with
      | none, false => .ok (entries ++ [(k, table)], ())
      | none, true => .ok (entries ++ [(k, .tables (arraySpan [table]) [table])], ())
      | some (k0, .table kind _ _), false =>
        if kind.implicit then .ok (replaceEntry entries k.name (k0, table), ()) else .error dup
      | some (k0, .tables _ items), true =>
        let items := items ++ [table]
        .ok (replaceEntry entries k.name (k0, .tables (arraySpan items) items), ())
      | some _, _ => .error dup
    let (root, ()) ← descend false change [] parent false b.root
    pure { b with root, current := [] }

/-- Opens the table a header names. Only an implicit table that no dotted key made may be
named again; its entries become the current ones. -/
def openTable (b : Builder) (path : List Key) (span : Span) : Except String Builder := do
  match splitLast path with
  | none => pure b
  | some (parent, k) =>
    let dup := duplicateIn (keyText k.name) (parent.map (·.name))
    let change (_ : Bool) (entries : List (Key × Node)) :
        Except String (List (Key × Node) × List (Key × Node)) :=
      match entries.find? (·.1.name = k.name) with
      | none => .ok (entries, [])
      | some (_, .table kind _ sub) =>
        if kind.implicit && !kind.dotted then .ok (entries.filter (·.1.name ≠ k.name), sub)
        else .error dup
      | some _ => .error dup
    let (root, current) ← descend false change [] parent false b.root
    pure { b with root, current, currentSpan := some span, currentPath := path, inArray := false }

/-- Opens a new element of the array of tables a header names. -/
def openArrayTable (b : Builder) (path : List Key) (span : Span) : Except String Builder := do
  match splitLast path with
  | none => pure b
  | some (parent, k) =>
    let change (_ : Bool) (entries : List (Key × Node)) :
        Except String (List (Key × Node) × Unit) :=
      match entries.find? (·.1.name = k.name) with
      | none => .ok (entries ++ [(k, .tables none [])], ())
      | some (_, .tables _ _) => .ok (entries, ())
      | some _ => .error (duplicateIn (keyText k.name) (parent.map (·.name)))
    let (root, ()) ← descend false change [] parent false b.root
    pure { b with
      root, current := [], currentSpan := some span, currentPath := path, inArray := true }

/-- Handles a header: the current table is joined, then the named one opened. -/
def onHeader (b : Builder) (path : List Key) (isArray : Bool) (span : Span) :
    Except String Builder := do
  let b ← b.finish
  if isArray then b.openArrayTable path span else b.openTable path span

/-- The document the tables make. -/
def document (b : Builder) : Document :=
  ⟨b.root.map fun (k, n) => ⟨k.name, n.toValue, n.span.getD k.span⟩⟩

end Builder

/-- Reads a key-value pair and places it. -/
def pair (fuel : Nat) (b : Builder) : Parse Builder := do
  let start ← get
  let path ← commit (key fuel)
  if (← peek) ≠ some '=' then stop "expected `.`, `=`"
  bump
  ws
  let first ← here
  let v ← commit (value fuel 0)
  let last ← here
  lineEnd
  match splitLast path with
  | none => pure b
  | some (front, k) =>
    match b.onPair front k v ⟨first, last⟩ with
    | .ok b' => pure b'
    | .error m => do set start; stop m

/-- Reads a table header and opens its table. -/
def header (fuel : Nat) (b : Builder) : Parse Builder := do
  let start ← get
  bump
  let isArray := (← peek) = some '['
  if isArray then bump
  let path ← commitNamed "table header" (key fuel)
  let close := if isArray then [']', ']'] else [']']
  if (← peekN close.length) ≠ close then stop "invalid table header\nexpected `.`, `]`"
  bumpN close.length
  let stopAt ← here
  commitNamed "table header" lineEnd
  match b.onHeader path isArray ⟨start.pos, stopAt⟩ with
  | .ok b' => pure b'
  | .error m => do set start; stop ("invalid table header\n" ++ m)

/-- Reads the statements of a document. A comment or line break that no proper line end
follows stops reading without a message. -/
def statements (fuel : Nat) : Nat → Builder → Parse Builder
  | 0, b => pure b
  | n + 1, b => do
    ws
    match ← peek with
    | none => pure b
    | some '#' => do
      comment
      match ← peek with
      | none => pure b
      | some _ =>
        match ← attempt newline with
        | some () => statements fuel n b
        | none => stop ""
    | some '\n' | some '\r' => do
      match ← attempt newline with
      | some () => statements fuel n b
      | none => stop ""
    | some '[' => do statements fuel n (← header fuel b)
    | some _ => do statements fuel n (← pair fuel b)

/-- Reads a TOML document. -/
def parse (text : String) : Except Fault Document :=
  let cs := text.toList
  let cs := if cs.head? = some '\uFEFF' then cs.tail else cs
  let start : Cursor := ⟨cs, text.utf8ByteSize - (String.ofList cs).utf8ByteSize⟩
  match (statements (cs.length + 1) (cs.length + 1) {}).run start with
  | .ok (b, _) =>
    match b.finish with
    | .ok b => .ok b.document
    | .error m => .error ⟨text.utf8ByteSize, m, true⟩
  | .error f => .error f

end ChangeLog.Toml
