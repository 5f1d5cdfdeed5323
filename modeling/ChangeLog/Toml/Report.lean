import ChangeLog.Toml.Document
/-
  How a failure to read a TOML document is shown: the line and column where it happened,
  the line itself with a mark under the offending text, and the message. Columns count
  characters from 1; a position at the very end after a final line break is shown on the
  last line, one past its end. The mark is at least one caret and at most reaches one past
  the end of the line; a fault is marked under the whole character it stopped in.
-/

namespace ChangeLog.Toml

/-- A failure with the span it concerns, if any. -/
structure Report where
  message : String
  span : Option Span

/-- The line and column, both from 0, of a byte offset of a text. -/
def position (bytes : List UInt8) (index : Nat) : Nat × Nat :=
  if bytes.isEmpty then (0, index)
  else
    let safe := min index (bytes.length - 1)
    let beyond := index - safe
    let before := bytes.take safe
    let lineStart := match (before.reverse.findIdx? (· = 10)) with
      | some k => safe - k
      | none => 0
    let line := (bytes.take lineStart).count 10
    let seg := (bytes.drop lineStart).take (safe + 1 - lineStart)
    let column := match String.fromUTF8? (ByteArray.mk seg.toArray) with
      | some s => s.length - 1
      | none => safe - lineStart
    (line, column + beyond)

/-- Spaces. -/
def spaces (n : Nat) : String := String.ofList (List.replicate n ' ')

/-- The text of a failure of reading a document. -/
def Report.render (raw : String) (r : Report) : String :=
  match r.span with
  | none => r.message ++ "\n"
  | some sp =>
    let bytes := raw.toUTF8.toList
    let (line, column) := position bytes sp.start
    let lineNum := line + 1
    let gutter := (toString lineNum).length
    let content := (raw.splitOn "\n").getD line ""
    let mark := min (sp.stop - sp.start) (content.utf8ByteSize - column)
    "TOML parse error at line " ++ toString lineNum ++ ", column " ++ toString (column + 1) ++ "\n" ++
      spaces (gutter + 1) ++ "|\n" ++
      toString lineNum ++ " | " ++ content ++ "\n" ++
      spaces (gutter + 1) ++ "|" ++ spaces (column + 1) ++ "^" ++
        String.ofList (List.replicate (mark - 1) '^') ++ "\n" ++
      r.message ++ "\n"

/-- Whether a byte continues a character begun before it. -/
def isContinuation (b : UInt8) : Bool := b &&& 0xC0 = 0x80

/-- The start of the character holding a byte offset. -/
def charStart (bytes : List UInt8) : Nat → Nat
  | 0 => 0
  | i + 1 =>
    match bytes[i + 1]? with
    | some b => if isContinuation b then charStart bytes i else i + 1
    | none => i + 1

/-- The bytes of the character starting at an offset; none at the end. -/
def charWidth (bytes : List UInt8) (start : Nat) : Nat :=
  if start < bytes.length then 1 + ((bytes.drop (start + 1)).takeWhile isContinuation).length
  else 0

/-- The report of a reading fault: the character holding the offset it stopped at. -/
def Fault.report (raw : String) (f : Fault) : Report :=
  let bytes := raw.toUTF8.toList
  let start := charStart bytes f.pos
  ⟨f.message, some ⟨start, start + charWidth bytes start⟩⟩

end ChangeLog.Toml
