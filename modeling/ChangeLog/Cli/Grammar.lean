import ChangeLog.Net.Address
import ChangeLog.Text.Number
import ChangeLog.Text.Quoted
/-
  The grammar of a command line. A command is read one level at a time: the tool itself,
  whose arguments are global and which names a subcommand, and then the subcommand with its
  own arguments and the global ones. An argument is a flag, an option taking one value, or a
  positional value; values are checked as they are taken. Each argument has the written
  forms shown in help, in usage lines and in error messages.
-/

namespace ChangeLog.Cli

/-- What the value of an argument may be. -/
inductive ValueKind where
  /-- Any text. -/
  | text
  /-- A path, which may not be empty. -/
  | path
  /-- An unsigned 64-bit number. -/
  | count
  /-- One of a list of names. -/
  | choice (names : List String)
  /-- A socket address. -/
  | address
  deriving DecidableEq, Repr

/-- How an argument takes part in a command line. -/
inductive Shape where
  /-- Present or absent. -/
  | flag
  /-- Takes one value. -/
  | option (valueName : String) (kind : ValueKind)
  /-- A value given by its place among the positional values. -/
  | positional (valueName : String) (kind : ValueKind) (required : Bool)
  /-- Any number of positional values; only shown, never read. -/
  | rest (valueName : String)
  /-- Asks for the help of the command. -/
  | help
  /-- Asks for the version of the tool. -/
  | version
  deriving DecidableEq, Repr

/-- An argument of a command. -/
structure Arg where
  id : String
  short : Option Char := none
  long : Option String := none
  help : String := ""
  shape : Shape
  default : Option String := none
  deriving Repr

/-- One level of a command: its name as usage shows it, what it does, its arguments in the
order help lists them, the subcommands it names with what each does, and the ids of the
arguments it gathers in a group, which a usage line after a mistake may show as one. -/
structure Level where
  name : String
  about : String
  args : List Arg
  commands : List (String × String) := []
  group : List String := []

/-- Whether a level takes a help flag. -/
def Level.hasHelpFlag (lv : Level) : Bool :=
  lv.args.any fun a => match a.shape with
    | .help => true
    | _ => false

namespace Arg

/-- Whether an argument is given by place. -/
def isPositional (a : Arg) : Bool :=
  match a.shape with
  | .positional .. | .rest _ => true
  | _ => false

/-- Whether an argument takes a value. -/
def takesValue (a : Arg) : Bool :=
  match a.shape with
  | .option .. | .positional .. | .rest _ => true
  | _ => false

/-- Whether a positional argument must be given. -/
def isRequired (a : Arg) : Bool :=
  match a.shape with
  | .positional _ _ r => r
  | _ => false

/-- The names a value must be one of, if any. -/
def choices (a : Arg) : List String :=
  match a.shape with
  | .option _ (.choice ns) | .positional _ (.choice ns) _ => ns
  | _ => []

/-- The value part of the written form: a positional value in angle brackets when it is
needed and in square brackets when it is not. -/
def suffix (a : Arg) (required : Bool) : String :=
  match a.shape with
  | .option v _ => " <" ++ v ++ ">"
  | .positional v _ _ => if required then "<" ++ v ++ ">" else "[" ++ v ++ "]"
  | .rest v => "[" ++ v ++ "]..."
  | _ => ""

/-- The name part of the written form: the long name when there is one. -/
def flagName (a : Arg) : String :=
  match a.long, a.short with
  | some l, _ => "--" ++ l
  | none, some c => "-" ++ c.toString
  | none, none => ""

/-- The written form of an argument with its value, as help and errors show it. -/
def display (a : Arg) : String := a.flagName ++ a.suffix a.isRequired

/-- The written form in a usage line, where a value is shown as needed or not. -/
def usageForm (a : Arg) (required : Bool) : String := a.flagName ++ a.suffix required

end Arg

namespace Level

/-- The argument with a long name. -/
def findLong (lv : Level) (name : String) : Option Arg := lv.args.find? (·.long == some name)

/-- The argument with a short name. -/
def findShort (lv : Level) (c : Char) : Option Arg := lv.args.find? (·.short == some c)

/-- The argument with an id. -/
def find (lv : Level) (id : String) : Option Arg := lv.args.find? (·.id == id)

/-- The positional arguments, in order. -/
def positionals (lv : Level) : List Arg := lv.args.filter (·.isPositional)

/-- The arguments named by flags, in order. -/
def named (lv : Level) : List Arg := lv.args.filter fun a => !a.isPositional

/-- The long names, in order. -/
def longs (lv : Level) : List String := lv.args.filterMap (·.long)

/-- Whether the level names subcommands. -/
def hasCommands (lv : Level) : Bool := !lv.commands.isEmpty

end Level

/-! ## Checking values -/

/-- Why a value is refused. -/
inductive ValueFault where
  /-- The value is missing or empty where one is needed. -/
  | empty
  /-- The value is not one of the names allowed. -/
  | notChoice
  /-- The value does not read, for the reason given. -/
  | invalid (reason : String)
  deriving DecidableEq, Repr

/-- Checks a value against the kind an argument takes. -/
def ValueKind.check : ValueKind → String → Except ValueFault Unit
  | .text, _ => .ok ()
  | .path, v => if v.isEmpty then .error .empty else .ok ()
  | .count, v =>
    match readUnsigned v with
    | .ok _ => .ok ()
    | .error e => .error (.invalid e.message)
  | .choice ns, v =>
    if ns.contains v then .ok () else if v.isEmpty then .error .empty else .error .notChoice
  | .address, v =>
    match SocketAddr.parse? v with
    | some _ => .ok ()
    | none => .error (.invalid "invalid socket address syntax")

/-- The kind of value an argument takes. -/
def Arg.kind (a : Arg) : ValueKind :=
  match a.shape with
  | .option _ k | .positional _ k _ => k
  | _ => .text

/-! ## Similar names -/

/-- The positions of b matched by the characters of a, each within a window around its own
position, each position of b used at most once. -/
def jaroMarks (a b : List Char) : List (Option Nat) :=
  let range := (max a.length b.length / 2) - 1
  let step (acc : List (Option Nat) × List Nat) (ic : Nat × Char) :=
    let (i, c) := ic
    let lo := i - range
    let hi := min b.length (i + range + 1)
    match (List.range hi).find? (fun j => lo ≤ j && b[j]? == some c && !acc.2.contains j) with
    | some j => (acc.1 ++ [some j], j :: acc.2)
    | none => (acc.1 ++ [none], acc.2)
  (((List.range a.length).zip a).foldl step ([], [])).1

/-- A similarity as a fraction. -/
structure Similarity where
  num : Nat
  den : Nat
  deriving DecidableEq, Repr

/-- Whether one similarity is at most another. -/
def Similarity.le (x y : Similarity) : Bool := x.num * y.den ≤ y.num * x.den

/-- The Jaro similarity of two texts: the share of matched characters on each side and the
share of matches in the same order, averaged. -/
def jaro (s t : String) : Similarity :=
  let a := s.toList
  let b := t.toList
  if a.isEmpty && b.isEmpty then ⟨1, 1⟩
  else if a.isEmpty || b.isEmpty then ⟨0, 1⟩
  else
    let marks := jaroMarks a b
    let m := (marks.filter Option.isSome).length
    if m = 0 then ⟨0, 1⟩
    else
      let fromA := (a.zip marks).filterMap fun (c, mk) => mk.map fun _ => c
      let order := ((marks.filterMap id).mergeSort (· ≤ ·))
      let fromB := order.filterMap fun j => b[j]?
      let t := ((fromA.zip fromB).filter fun (x, y) => x != y).length / 2
      let la := a.length
      let lb := b.length
      ⟨m * m * lb + m * m * la + (m - t) * la * lb, 3 * la * lb * m⟩

/-- Whether a similarity is above seven tenths. -/
def Similarity.close (x : Similarity) : Bool := 7 * x.den < 10 * x.num

/-- The names close to a text, least similar first; names equally similar keep their order. -/
def similarNames (v : String) (names : List String) : List String :=
  let scored := (names.map fun n => (jaro v n, n)).filter (·.1.close)
  (scored.mergeSort fun x y => x.1.le y.1).map (·.2)

end ChangeLog.Cli
