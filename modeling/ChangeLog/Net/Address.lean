import ChangeLog.Text.Quoted
/-
  Socket addresses: an IPv4 address and a port, or a bracketed IPv6 address with an
  optional numeric scope and a port. Reading is strict: IPv4 parts are decimal without
  leading zeros and at most three digits, IPv6 groups at most four hexadecimal digits with
  one "::" for a run of zero groups and an optional IPv4 tail, and the whole text must be
  used. Writing gives the canonical form: IPv6 groups in lowercase without leading zeros,
  the first longest run of two or more zero groups written "::", and mapped IPv4 addresses
  written after "::ffff:".
-/

namespace ChangeLog

/-- A socket address. -/
inductive SocketAddr where
  | v4 (octets : List Nat) (port : Nat)
  | v6 (segments : List Nat) (scope : Nat) (port : Nat)
  deriving DecidableEq, Repr

namespace SocketAddr

/-- A reader of characters: a value and the rest, or nothing. -/
abbrev Read (α : Type) := List Char → Option (α × List Char)

/-- The value of a digit in a radix. -/
def digitValue (radix : Nat) (c : Char) : Option Nat :=
  let v := if c.isDigit then some (c.toNat - 48)
    else if 'a' ≤ c && c ≤ 'f' then some (c.toNat - 87)
    else if 'A' ≤ c && c ≤ 'F' then some (c.toNat - 55)
    else none
  match v with
  | some d => if d < radix then some d else none
  | none => none

/-- Reads a number greedily: its digits must not pass a limit or a count, and a leading
zero is refused unless allowed. -/
def number (radix : Nat) (maxDigits : Option Nat) (zeroPrefix : Bool) (limit : Nat) : Read Nat :=
  fun cs =>
    let ds := cs.takeWhile fun c => (digitValue radix c).isSome
    let rest := cs.drop ds.length
    let rec value : List Char → Nat → Option Nat
      | [], acc => some acc
      | c :: more, acc =>
        let acc' := acc * radix + (digitValue radix c).getD 0
        if acc' > limit then none else value more acc'
    if ds.isEmpty then none
    else if maxDigits.any (ds.length > ·) then none
    else if !zeroPrefix && ds.head? = some '0' && ds.length > 1 then none
    else (value ds 0).map (·, rest)

/-- Reads a given character. -/
def given (ch : Char) : Read Unit
  | c :: rest => if c = ch then some ((), rest) else none
  | [] => none

/-- Reads a dotted IPv4 address. -/
def ipv4 : Read (List Nat) := fun cs => do
  let (a, r) ← number 10 (some 3) false 255 cs
  let ((), r) ← given '.' r
  let (b, r) ← number 10 (some 3) false 255 r
  let ((), r) ← given '.' r
  let (c, r) ← number 10 (some 3) false 255 r
  let ((), r) ← given '.' r
  let (d, r) ← number 10 (some 3) false 255 r
  pure ([a, b, c, d], r)

/-- Reads up to a number of IPv6 groups separated by colons, the last two of which may
be an IPv4 address; tells whether such a tail was read. -/
def groups : Nat → Nat → List Nat → Read (List Nat × Bool)
  | 0, _, acc => fun cs => some ((acc.reverse, false), cs)
  | n + 1, i, acc => fun cs =>
    let sep : Read Unit := if i = 0 then fun r => some ((), r) else given ':'
    let tail : Option (List Nat × List Char) :=
      if n ≥ 1 then
        match sep cs with
        | some ((), r) => ipv4 r
        | none => none
      else none
    match tail with
    | some ([a, b, c, d], r) => some (((acc.reverse ++ [a * 256 + b, c * 256 + d]), true), r)
    | _ =>
      let group := match sep cs with
        | some ((), r) => number 16 (some 4) true 0xFFFF r
        | none => none
      match group with
      | some (g, r) => groups n (i + 1) (g :: acc) r
      | none => some ((acc.reverse, false), cs)

/-- Reads an IPv6 address. -/
def ipv6 : Read (List Nat) := fun cs => do
  let ((head, headV4), r) ← groups 8 0 [] cs
  if head.length = 8 then pure (head, r)
  else if headV4 then none
  else
    let ((), r) ← given ':' r
    let ((), r) ← given ':' r
    let ((tail, _), r) ← groups (8 - (head.length + 1)) 0 [] r
    pure (head ++ List.replicate (8 - head.length - tail.length) 0 ++ tail, r)

/-- Reads a port after its colon. -/
def port : Read Nat := fun cs => do
  let ((), r) ← given ':' cs
  number 10 none true 0xFFFF r

/-- Reads a socket address. -/
def read : Read SocketAddr := fun cs =>
  let asV4 : Option (SocketAddr × List Char) := do
    let (ip, r) ← ipv4 cs
    let (p, r) ← port r
    pure (.v4 ip p, r)
  match asV4 with
  | some r => some r
  | none => do
    let ((), r) ← given '[' cs
    let (ip, r) ← ipv6 r
    let (scope, r) := match given '%' r with
      | some ((), r') =>
        match number 10 none true 0xFFFFFFFF r' with
        | some (s, r'') => (s, r'')
        | none => (0, r)
      | none => (0, r)
    let ((), r) ← given ']' r
    let (p, r) ← port r
    pure (.v6 ip scope p, r)

/-- Reads a socket address from a whole text. -/
def parse? (s : String) : Option SocketAddr :=
  match read s.toList with
  | some (a, []) => some a
  | _ => none

/-- Lowercase hexadecimal digits of a number. -/
def hexText (n : Nat) : String := Text.hexDigits n

/-- The first longest run of zero groups: its start and length. -/
def zeroRun (segs : List Nat) : Nat × Nat :=
  let rec go : List Nat → Nat → Nat × Nat → Nat × Nat → Nat × Nat
    | [], _, _, best => best
    | s :: rest, i, (cs, cl), best =>
      if s = 0 then
        let cur := if cl = 0 then (i, 1) else (cs, cl + 1)
        go rest (i + 1) cur (if cur.2 > best.2 then cur else best)
      else go rest (i + 1) (0, 0) best
  go segs 0 (0, 0) (0, 0)

/-- The text of an IPv4 address. -/
def ipv4Text (octets : List Nat) : String := ".".intercalate (octets.map toString)

/-- The canonical text of an IPv6 address. -/
def ipv6Text (segs : List Nat) : String :=
  match segs with
  | [0, 0, 0, 0, 0, 0xFFFF, x, y] => "::ffff:" ++ ipv4Text [x / 256, x % 256, y / 256, y % 256]
  | _ =>
    let (start, len) := zeroRun segs
    let part (xs : List Nat) := ":".intercalate (xs.map hexText)
    if len > 1 then part (segs.take start) ++ "::" ++ part (segs.drop (start + len))
    else part segs

/-- The text of a socket address. -/
def toText : SocketAddr → String
  | .v4 ip p => ipv4Text ip ++ ":" ++ toString p
  | .v6 ip scope p =>
    "[" ++ ipv6Text ip ++ (if scope = 0 then "" else "%" ++ toString scope) ++ "]:" ++ toString p

/-- The port of an address. -/
def portOf : SocketAddr → Nat
  | .v4 _ p => p
  | .v6 _ _ p => p

/-- The address the server listens on unless told otherwise. -/
def defaultBind : SocketAddr := .v4 [127, 0, 0, 1] 7070

end SocketAddr
end ChangeLog
