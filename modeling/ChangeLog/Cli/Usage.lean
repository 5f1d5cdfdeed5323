import ChangeLog.Cli.Grammar
/-
  Usage lines and help pages. A usage line names the command, then [OPTIONS] when it has
  options, then its arguments: the required positional values in angle brackets and the others
  in square brackets. A usage line that follows a mistake shows instead the arguments that
  were given, a group of them as one choice once one of its members was given. A help page lists the subcommands, the positional arguments and the options,
  each with its help, its default and the values it allows, aligned in a column; when some
  line would run past a hundred columns, every help text of the section moves to a line of its
  own instead.
-/

namespace ChangeLog.Cli

/-- A run of spaces. -/
def spaces (n : Nat) : String := String.ofList (List.replicate n ' ')

/-- A text without its trailing blanks and line breaks. -/
def trimEnd (s : String) : String :=
  String.ofList (s.toList.reverse.dropWhile Char.isWhitespace).reverse

/-- A list without repeats, first places kept. -/
def uniq (xs : List String) : List String :=
  xs.foldl (fun acc x => if acc.contains x then acc else acc ++ [x]) []

/-- Whether a text has a blank in it. -/
def hasBlank (s : String) : Bool := s.any Char.isWhitespace

namespace Level

/-- Whether usage shows [OPTIONS]: the level has an option other than help and version. -/
def needsOptions (lv : Level) : Bool :=
  lv.named.any fun a => match a.shape with
    | .help | .version => false
    | _ => true

/-- The arguments a usage line shows, given the arguments used: the options used, then, when
the level's group counts as used, the group as one choice in angle brackets in place of its
members, then every positional value, needed when it is required or was used. -/
def usageArgs (lv : Level) (used : List String) (grouped : Bool) : List String :=
  let required := (lv.positionals.filter (·.isRequired)).map (·.id)
  let ids := required ++ used
  let member (a : Arg) : Bool := grouped && lv.group.contains a.id
  let opts := uniq ((ids.filterMap lv.find).filter (fun a => !a.isPositional && !member a)
    |>.map (·.usageForm true))
  let group := if grouped then
      ["<" ++ "|".intercalate ((lv.group.filterMap lv.find).map (·.usageForm true)) ++ ">"]
    else []
  let pos := lv.positionals.map fun p => p.usageForm (ids.contains p.id)
  opts ++ group ++ pos

/-- The usage line, without its heading: the full form when nothing was used. -/
def usage (lv : Level) (used : List String) (grouped : Bool) : String :=
  let head := if used.isEmpty && lv.needsOptions then [lv.name, "[OPTIONS]"] else [lv.name]
  let tail := if lv.hasCommands then ["<COMMAND>"] else []
  " ".intercalate (head ++ lv.usageArgs used grouped ++ tail)

/-- The usage line with its heading. -/
def usageLine (lv : Level) (used : List String) : String := "Usage: " ++ lv.usage used false

/-- The usage line after a mistake, given the arguments taken before it and those the
mistake adds: the group counts as used when an argument taken before belongs to it. -/
def usageAfter (lv : Level) (taken added : List String) : String :=
  "Usage: " ++ lv.usage (taken ++ added) (lv.group.any taken.contains)

end Level

/-! ## Help pages -/

namespace Arg

/-- A default as help shows it: quoted when empty or when it has blanks. -/
def defaultText (v : String) : String := if v.isEmpty || hasBlank v then Text.quote v else v

/-- The notes after an argument's help: its default and the values it allows. -/
def notes (a : Arg) : String :=
  let d := match a.default with
    | some v => ["[default: " ++ defaultText v ++ "]"]
    | none => []
  let c := if a.choices.isEmpty then [] else ["[possible values: " ++ ", ".intercalate a.choices ++ "]"]
  " ".intercalate (d ++ c)

/-- The help text with its notes. -/
def helpWithNotes (a : Arg) : String :=
  let n := a.notes
  if a.help.isEmpty then n else if n.isEmpty then a.help else a.help ++ " " ++ n

/-- The columns an argument's names take before its help. -/
def taken (a : Arg) (longest : Nat) : Nat := if a.isPositional then longest + 4 else longest + 8

/-- Whether an argument's help would run past a hundred columns. -/
def overflows (a : Arg) (longest : Nat) : Bool :=
  let t := a.taken longest
  t ≤ 100 && 40 < t && 100 - t < a.help.length + a.notes.length

/-- The names of an argument as its help line starts. -/
def heading (a : Arg) : String :=
  let s := match a.short with
    | some c => "-" ++ c.toString
    | none => if a.long.isSome then "    " else ""
  let l := match a.long with
    | some n => (if a.short.isSome then ", " else "") ++ "--" ++ n
    | none => ""
  s ++ l ++ a.suffix a.isRequired

/-- The help line of an argument, aligned to a column or with its help on the next line. -/
def helpLine (a : Arg) (longest : Nat) (nextLine : Bool) : String :=
  if nextLine then "  " ++ a.heading ++ "\n" ++ spaces 10 ++ a.helpWithNotes
  else
    let pad := if a.isPositional || a.long.isSome then longest + 2 - a.display.length
      else longest + 6 - a.display.length
    "  " ++ a.heading ++ spaces pad ++ a.helpWithNotes

end Arg

/-- A section of argument help lines. -/
def argSection (title : String) (args : List Arg) : Option String :=
  if args.isEmpty then none
  else
    let longest := args.foldl (fun m a => max m a.display.length) 2
    let nextLine := args.any (·.overflows longest)
    some (title ++ ":\n" ++ "\n".intercalate (args.map (·.helpLine longest nextLine)))

/-- The section of subcommands. -/
def commandSection (cmds : List (String × String)) : Option String :=
  if cmds.isEmpty then none
  else
    let longest := cmds.foldl (fun m c => max m c.1.length) 2
    some ("Commands:\n" ++ "\n".intercalate (cmds.map fun (n, about) =>
      "  " ++ n ++ spaces (longest + 2 - n.length) ++ about))

/-- The help page of a level. -/
def Level.helpText (lv : Level) : String :=
  let sections := [commandSection lv.commands, argSection "Arguments" lv.positionals,
    argSection "Options" lv.named].filterMap id
  trimEnd (lv.about ++ "\n\n" ++ lv.usageLine [] ++ "\n\n" ++ "\n\n".intercalate sections) ++ "\n"

end ChangeLog.Cli
