import ChangeLog.Script.Session
import ChangeLog.Cli.Commands
/-
  Runs of the tool in one scratch directory. Files may be placed there first, by relative
  paths, as text or as hexadecimal bytes. Each run is the tool on a command line, with the
  clock one second later than the run before; its answer is the exit code and the two outputs
  without their last line break, with times shown as <ts>, ids of 64 hexadecimal digits as
  <id>, the short id at the start of an event line as <sid>, and every size of the event log
  as <n>.
-/

namespace ChangeLog.Script

open Json

/-! ## Masks -/

/-- Whether a text starts with characters that fit a template, where d stands for a digit. -/
def fits (template : List Char) (cs : List Char) : Bool :=
  cs.length ≥ template.length &&
    (template.zip cs).all fun (t, c) => if t = 'd' then c.isDigit else t = c

/-- The length of the time written at the start of a text, if one is: a date and a time of
day, a fraction if any, and then Z or an offset. -/
def timeAt (cs : List Char) : Option Nat :=
  if !fits "dddd-dd-ddTdd:dd:dd".toList cs then none
  else
    let rest := cs.drop 19
    let frac := match rest with
      | '.' :: more =>
        let k := (more.takeWhile Char.isDigit).length
        if k > 0 then k + 1 else 0
      | _ => 0
    match rest.drop frac with
    | 'Z' :: _ => some (20 + frac)
    | c :: more => if (c = '+' || c = '-') && fits "dd:dd".toList more then some (25 + frac) else none
    | [] => none

/-- Whether a character is a lowercase hexadecimal digit. -/
def isLowerHex (c : Char) : Bool := c.isDigit || ('a' ≤ c && c ≤ 'f')

/-- Replaces, from the left, every time with <ts>. -/
def maskTimes : Nat → List Char → List Char
  | 0, cs => cs
  | _ + 1, [] => []
  | fuel + 1, c :: cs =>
    match timeAt (c :: cs) with
    | some n => "<ts>".toList ++ maskTimes fuel ((c :: cs).drop n)
    | none => c :: maskTimes fuel cs

/-- Replaces every run of exactly 64 lowercase hexadecimal digits with <id>; a longer run is
kept whole. -/
def maskIds : Nat → List Char → List Char
  | 0, cs => cs
  | _ + 1, [] => []
  | fuel + 1, c :: cs =>
    let run := (c :: cs).takeWhile isLowerHex
    if run.isEmpty then c :: maskIds fuel cs
    else (if run.length = 64 then "<id>".toList else run) ++ maskIds fuel ((c :: cs).drop run.length)

/-- A line that starts like an event line, a number sign, digits, two blanks and eight
hexadecimal digits, with those digits shown as <sid>. -/
def maskShortId (line : String) : String :=
  match line.toList with
  | '#' :: rest =>
    let ds := rest.takeWhile Char.isDigit
    let after := rest.drop ds.length
    let sid := (after.drop 2).take 8
    if !ds.isEmpty && fits "  ".toList after && sid.length = 8 && sid.all isLowerHex then
      String.ofList ('#' :: ds ++ "  <sid>".toList ++ after.drop 10)
    else line
  | _ => line

/-- A text with the digits after every occurrence of a label shown as <n>. -/
def maskNumbersAfter (label : String) (s : String) : String :=
  match s.splitOn label with
  | [] => s
  | first :: parts =>
    first ++ String.join (parts.map fun p =>
      let ds := p.toList.takeWhile Char.isDigit
      label ++ (if ds.isEmpty then p else "<n>" ++ String.ofList (p.toList.drop ds.length)))

/-- An output as answered: times, then ids, then short ids at the start of lines, then the
sizes of the event log. -/
def maskOutput (s : String) : String :=
  let s := String.ofList (maskTimes (s.length + 1) s.toList)
  let s := String.ofList (maskIds (s.length + 1) s.toList)
  let s := "\n".intercalate ((s.splitOn "\n").map maskShortId)
  maskNumbersAfter "\"events_bytes\": " (maskNumbersAfter "events.wal  " s)

/-- An output without its last line break. -/
def dropNewline (s : String) : String :=
  if s.endsWith "\n" then String.ofList s.toList.dropLast else s

/-! ## Runs -/

/-- Whether a path stays inside the scratch directory. -/
def isRelative (path : String) : Bool :=
  !path.startsWith "/" && !(path.splitOn "/").contains ".."

/-- The bytes of a file to place. -/
def fileBytes (v : Value) : Except String Bytes :=
  let f : Fields := ⟨v⟩
  match f.get? "hex" with
  | some _ => f.hex "hex"
  | none => do
    let t ← f.str "text" (some "")
    pure t.toUTF8.toList

/-- The words of a run. -/
def runWords (v : Value) : Except String (List String) :=
  match v with
  | .arr items => items.mapM fun
    | .str s => .ok s
    | _ => .error "run arguments must be strings"
  | _ => .error "each run must be a list of arguments"

/-- The answer of one run. -/
def outcomeView (o : Cli.Outcome) : Value :=
  obj [("code", .nat o.code), ("stdout", .str (dropNewline (maskOutput o.stdout))),
    ("stderr", .str (dropNewline (maskOutput o.stderr)))]

/-- Runs the tool once per command line, in order, on one disk. -/
def runAll (d : Disk) (n : Nat) : List (List String) → List Value
  | [] => []
  | words :: rest =>
    let ctx : Cli.Context := ⟨(Instant.of? (1700000000 + n) 0).getD Instant.epoch, Issued.cursor n⟩
    let (o, d') := Cli.runTool ctx words d
    outcomeView o :: runAll d' (n + 1) rest

/-- The answer of runs of the tool. -/
def cliAnswer (f : Fields) : Value :=
  let files := match f.get? "files" with
    | some (.obj fs) => fs
    | _ => []
  if files.any (fun (p, _) => !isRelative p) then badInput "file paths must be relative"
  else
    let placed := files.foldlM (fun d (p, v) => (fileBytes v).map (d.place p)) Disk.fresh
    match placed, f.list "runs" with
    | .error m, _ | _, .error m => badInput m
    | .ok d, .ok runs =>
      match runs.mapM runWords with
      | .error m => badInput m
      | .ok words => obj [("runs", .arr (runAll d 0 words))]

end ChangeLog.Script
