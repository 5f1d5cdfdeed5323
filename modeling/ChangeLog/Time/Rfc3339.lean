import ChangeLog.Time.Instant
import ChangeLog.Unicode.WhiteSpace
/-
  RFC 3339 text of instants. The year has four digits, or a sign and at least four digits
  outside 0..9999; seconds show 60 during a leap second; a fraction appears only when the
  nanoseconds are not zero, with 3, 6 or 9 digits, the fewest that hold them. The zone of
  UTC is written as a numeric offset or as the letter Z.

  Reading accepts what writing gives and some more: fields of one or two digits, a year of
  up to four digits without sign, any fraction, a blank or t in place of T, white space
  around the fields, and the zones Z, z, UTC and numeric offsets whose hours and minutes
  are parted by any run of colons and white space, or by nothing.
-/

namespace ChangeLog.Rfc3339

/-- How the zone of an instant is written. -/
inductive Zone where
  /-- As the offset "+00:00". -/
  | offset
  /-- As the letter Z. -/
  | letter
  deriving DecidableEq

/-- A number in decimal with at least width digits. -/
def pad (width n : Nat) : String :=
  let ds := toString n
  String.ofList (List.replicate (width - ds.length) '0') ++ ds

/-- The year: four digits inside 0..9999, otherwise a sign and at least four digits. -/
def yearText (y : Int) : String :=
  if 0 ≤ y ∧ y ≤ 9999 then pad 4 y.toNat
  else (if y < 0 then "-" else "+") ++ pad 4 y.natAbs

/-- The fraction of a second: nothing, or 3, 6 or 9 digits, the fewest that hold it. -/
def fraction (nanos : Nat) : String :=
  if nanos = 0 then ""
  else if nanos % 1000000 = 0 then "." ++ pad 3 (nanos / 1000000)
  else if nanos % 1000 = 0 then "." ++ pad 6 (nanos / 1000)
  else "." ++ pad 9 nanos

/-- The text of an instant. -/
def format (zone : Zone) (t : Instant) : String :=
  let d := t.date
  let sod := t.secondOfDay
  let leap := decide (t.nanos ≥ 1000000000)
  let sec := sod % 60 + (if leap then 1 else 0)
  let nano := if leap then t.nanos - 1000000000 else t.nanos
  yearText d.year ++ "-" ++ pad 2 d.month ++ "-" ++ pad 2 d.day ++ "T" ++ pad 2 (sod / 3600) ++
    ":" ++ pad 2 (sod / 60 % 60) ++ ":" ++ pad 2 sec ++ fraction nano ++
    (match zone with
     | .offset => "+00:00"
     | .letter => "Z")

/-- Skips white space. -/
def skipBlanks (cs : List Char) : List Char := cs.dropWhile Unicode.isWhiteSpace

/-- Reads between min and max decimal digits. -/
def digitsBetween (min max : Nat) (cs : List Char) : Option (Nat × List Char) :=
  let ds := (cs.takeWhile Char.isDigit).take max
  if ds.length < min then none
  else some (ds.foldl (fun n c => 10 * n + (c.toNat - 48)) 0, cs.drop ds.length)

/-- Reads a year: a sign and any digits, or up to four digits. -/
def readYear (cs : List Char) : Option (Int × List Char) :=
  match cs with
  | '-' :: rest => (digitsBetween 1 rest.length rest).map fun (n, r) => (-(n : Int), r)
  | '+' :: rest => (digitsBetween 1 rest.length rest).map fun (n, r) => ((n : Int), r)
  | _ => (digitsBetween 1 4 cs).map fun (n, r) => ((n : Int), r)

/-- Reads a literal character after optional white space. -/
def literal (c : Char) (cs : List Char) : Option (List Char) :=
  match skipBlanks cs with
  | d :: rest => if d = c then some rest else none
  | [] => none

/-- Reads an optional fraction of a second as nanoseconds; digits past the ninth are dropped. -/
def readFraction (cs : List Char) : Option (Nat × List Char) :=
  match cs with
  | '.' :: rest =>
    let ds := rest.takeWhile Char.isDigit
    if ds.isEmpty then none
    else
      let nine := (ds.take 9) ++ List.replicate (9 - min 9 ds.length) '0'
      some (nine.foldl (fun n c => 10 * n + (c.toNat - 48)) 0, rest.drop ds.length)
  | _ => some (0, cs)

/-- The value of a decimal digit. -/
def digitValue (c : Char) : Nat := c.toNat - 48

/-- Reads a numeric offset after its sign: two digits of hours, any run of colons and white
space, and two digits of minutes below 60. -/
def readOffset (cs : List Char) : Option (Nat × List Char) :=
  match cs with
  | h1 :: h2 :: rest =>
    if h1.isDigit && h2.isDigit then
      match rest.dropWhile (fun c => c == ':' || Unicode.isWhiteSpace c) with
      | m1 :: m2 :: rest =>
        if m1.isDigit && digitValue m1 < 6 && m2.isDigit then
          some ((10 * digitValue h1 + digitValue h2) * 3600 +
            (10 * digitValue m1 + digitValue m2) * 60, rest)
        else none
      | _ => none
    else none
  | _ => none

/-- Reads a zone as its offset in seconds east of UTC. -/
def readZone (cs : List Char) : Option (Int × List Char) :=
  let up := cs.take 3 |>.map Char.toUpper
  if up = ['U', 'T', 'C'] then some (0, cs.drop 3)
  else
    match cs with
    | 'Z' :: rest | 'z' :: rest => some (0, rest)
    | '+' :: rest => (readOffset rest).map fun (off, r) => ((off : Int), r)
    | '-' :: rest | '−' :: rest => (readOffset rest).map fun (off, r) => (-(off : Int), r)
    | _ => none

/-- Whether seconds from the epoch fall within the calendar range. -/
def inRange (secs : Int) : Bool := Instant.minSecs ≤ secs && secs ≤ Instant.maxSecs

/-- Reads an instant from its text. The local time and the instant must both fall within the
calendar range, and the offset must be less than a day. -/
def parse (s : String) : Option Instant := do
  let cs := s.toList
  let (y, cs) ← readYear (skipBlanks cs)
  let cs ← literal '-' cs
  let (mo, cs) ← digitsBetween 1 2 (skipBlanks cs)
  let cs ← literal '-' cs
  let (d, cs) ← digitsBetween 1 2 (skipBlanks cs)
  let cs ← match cs with
    | 'T' :: r | 't' :: r | ' ' :: r => some r
    | _ => none
  let (h, cs) ← digitsBetween 1 2 (skipBlanks cs)
  let cs ← literal ':' cs
  let (mi, cs) ← digitsBetween 1 2 (skipBlanks cs)
  let cs ← literal ':' cs
  let (sec, cs) ← digitsBetween 1 2 (skipBlanks cs)
  let (nano, cs) ← readFraction cs
  let (off, cs) ← readZone (skipBlanks cs)
  if !(skipBlanks cs).isEmpty then none
  else
    let date : Civil.Date := ⟨y, mo, d⟩
    if !date.isValid || h ≥ 24 || mi ≥ 60 || sec > 60 || off.natAbs ≥ 86400 then none
    else
      let (sec', nano') := if sec = 60 then (59, nano + 1000000000) else (sec, nano)
      let wall := Civil.daysFromCivil date * 86400 + h * 3600 + mi * 60 + sec'
      if !inRange wall then none else Instant.of? (wall - off) nano'

end ChangeLog.Rfc3339
