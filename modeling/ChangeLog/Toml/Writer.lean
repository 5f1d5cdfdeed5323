import ChangeLog.Toml.Value
import ChangeLog.Text.Quoted
/-
  Writing TOML strings. Of the four kinds of string the first that can hold the text
  without escapes is taken, in this order: a basic string between double quotes, a literal
  string between single quotes, a basic string in triple double quotes, a literal string in
  triple single quotes. A one-line string takes no line break and no quote of its own kind;
  a triple-quoted one takes runs of at most two of its quotes; a basic string without escapes
  takes no backslash; none takes a control character other than tab and line break. When
  none fits, the text is a basic string with escapes, in triple quotes when it has a line
  break. A triple-quoted string with a line break starts on a new line.
-/

namespace ChangeLog.Toml

/-- The longest run of one character in a text. -/
def longestRun (q : Char) (cs : List Char) : Nat :=
  let rec go : List Char → Nat → Nat → Nat
    | [], cur, best => max cur best
    | c :: rest, cur, best => if c = q then go rest (cur + 1) best else go rest 0 (max cur best)
  go cs 0 0

/-- Whether a character must be written as an escape in every kind of string. -/
def isEscapeCode (c : Char) : Bool :=
  c ≠ '\t' && c ≠ '\n' && (c.toNat ≤ 0x1F || c.toNat = 0x7F)

/-- What decides how a string is written. -/
structure Metrics where
  /-- The longest run of single quotes. -/
  singles : Nat
  /-- The longest run of double quotes. -/
  doubles : Nat
  /-- Whether a character needs an escape in every kind of string. -/
  escapeCodes : Bool
  /-- Whether there is a backslash. -/
  backslash : Bool
  /-- Whether there is a line break. -/
  newline : Bool

/-- The metrics of a text. -/
def Metrics.of (s : String) : Metrics :=
  let cs := s.toList
  ⟨longestRun '\'' cs, longestRun '"' cs, cs.any isEscapeCode, cs.contains '\\', cs.contains '\n'⟩

/-- The kinds of TOML string. -/
inductive Encoding where
  | basic
  | literal
  | multiBasic
  | multiLiteral
  deriving DecidableEq

/-- The kind a text is written as. -/
def Metrics.encoding (m : Metrics) : Encoding :=
  if !m.escapeCodes && !m.backslash && m.doubles = 0 && !m.newline then .basic
  else if !m.escapeCodes && m.singles = 0 && !m.newline then .literal
  else if !m.escapeCodes && !m.backslash && m.doubles ≤ 2 then .multiBasic
  else if !m.escapeCodes && m.singles ≤ 2 then .multiLiteral
  else if m.newline then .multiBasic
  else .basic

/-- One character of a basic string other than a double quote; a line break is kept as it is
in triple quotes. -/
def escapeChar (multi : Bool) (c : Char) : String :=
  match c with
  | '\x08' => "\\b"
  | '\t' => "\\t"
  | '\n' => if multi then "\n" else "\\n"
  | '\x0c' => "\\f"
  | '\r' => "\\r"
  | '"' => "\\\""
  | '\\' => "\\\\"
  | c =>
    if c.toNat ≤ 0x1F || c.toNat = 0x7F then
      "\\u" ++ String.ofList ((Text.hexDigits c.toNat).toUpper.toList.leftpad 4 '0')
    else c.toString

/-- The body of a basic string in triple quotes: double quotes stay as they are, except
the third of a run, which would close the string. -/
def multiBasicBody : List Char → Nat → String
  | [], _ => ""
  | c :: rest, run =>
    if c = '"' then
      if run + 1 ≥ 3 then "\\\"" ++ multiBasicBody rest 0 else "\"" ++ multiBasicBody rest (run + 1)
    else escapeChar true c ++ multiBasicBody rest 0

/-- A string as TOML text. -/
def stringText (s : String) : String :=
  let m := Metrics.of s
  let start := if m.newline then "\n" else ""
  match m.encoding with
  | .basic => "\"" ++ String.join (s.toList.map (escapeChar false)) ++ "\""
  | .literal => "'" ++ s ++ "'"
  | .multiBasic => "\"\"\"" ++ start ++ multiBasicBody s.toList 0 ++ "\"\"\""
  | .multiLiteral => "'''" ++ start ++ s ++ "'''"

/-- Whether a character may stand in a bare key. -/
def isBareChar (c : Char) : Bool :=
  ('a' ≤ c && c ≤ 'z') || ('A' ≤ c && c ≤ 'Z') || ('0' ≤ c && c ≤ '9') || c = '_' || c = '-'

/-- A key as TOML text: bare when it can be, else a basic string without escapes, else a
literal string, else a basic string with escapes. Every control character, tab and line
break included, needs an escape in a key. -/
def keyText (s : String) : String :=
  let cs := s.toList
  let control := cs.any fun c => c.toNat ≤ 0x1F || c.toNat = 0x7F
  if !cs.isEmpty && cs.all isBareChar then s
  else if !control && !cs.contains '\\' && !cs.contains '"' then "\"" ++ s ++ "\""
  else if !control && !cs.contains '\'' then "'" ++ s ++ "'"
  else "\"" ++ String.join (cs.map (escapeChar false)) ++ "\""

end ChangeLog.Toml
