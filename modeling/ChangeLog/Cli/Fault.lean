import ChangeLog.Cli.Usage
/-
  Mistakes on a command line and how they are reported. A report starts with "error: " and
  what went wrong, then tips (a similar name that exists, or how to pass a value that looks
  like a flag), then the usage line when the mistake is one of shape, and ends by pointing at
  --help when the command at fault has that flag. A command line may also stop the tool before it runs: to show help or the version,
  or, when nothing at all was given, to show help as a mistake.
-/

namespace ChangeLog.Cli

/-- A mistake on a command line. -/
inductive Fault where
  /-- An argument nothing expects, with a similar flag and tips. -/
  | unexpected (arg : String) (similar : Option String) (tips : List String) (usage : String)
  /-- A subcommand that does not exist, with the similar ones that do. -/
  | similarCommand (name : String) (similar : List String) (usage : String)
  /-- A subcommand that does not exist. -/
  | unknownCommand (name : String) (usage : String)
  /-- A subcommand that does not exist, asked of a command without a help flag; the report
  cannot point at one. -/
  | unknownTopic (name : String) (usage : String)
  /-- No subcommand was given. -/
  | missingCommand (bin : String) (names : List String) (usage : String)
  /-- Required arguments were not given. -/
  | missing (forms : List String) (usage : String)
  /-- A value that is empty or not one of those allowed. -/
  | badValue (arg value : String) (allowed : List String) (similar : Option String)
  /-- A value that does not read. -/
  | unreadable (arg value reason : String)
  /-- An argument given twice. -/
  | repeated (arg : String) (usage : String)
  /-- A value given to a flag. -/
  | extraValue (value arg : String) (usage : String)
  deriving DecidableEq, Repr

namespace Fault

/-- What went wrong, the first part of a report. -/
def headline : Fault → String
  | .unexpected a _ _ _ => "unexpected argument '" ++ a ++ "' found"
  | .similarCommand n _ _ | .unknownCommand n _ | .unknownTopic n _ =>
    "unrecognized subcommand '" ++ n ++ "'"
  | .missingCommand bin names _ =>
    "'" ++ bin ++ "' requires a subcommand but one was not provided\n  [subcommands: " ++
      ", ".intercalate names ++ "]"
  | .missing forms _ =>
    "the following required arguments were not provided:" ++ String.join (forms.map ("\n  " ++ ·))
  | .badValue a v allowed _ =>
    (if v.isEmpty then "a value is required for '" ++ a ++ "' but none was supplied"
      else "invalid value '" ++ v ++ "' for '" ++ a ++ "'") ++
    (if allowed.isEmpty then "" else "\n  [possible values: " ++ ", ".intercalate allowed ++ "]")
  | .unreadable a v reason => "invalid value '" ++ v ++ "' for '" ++ a ++ "': " ++ reason
  | .repeated a _ => "the argument '" ++ a ++ "' cannot be used multiple times"
  | .extraValue v a _ => "unexpected value '" ++ v ++ "' for '" ++ a ++ "' found; no more were expected"

/-- The similar names a report suggests, with what they are. -/
def similar : Fault → Option (String × List String)
  | .unexpected _ (some s) _ _ => some ("argument", [s])
  | .similarCommand _ s _ => some ("subcommand", s)
  | .badValue _ _ _ (some s) => some ("value", [s])
  | _ => none

/-- The other tips of a report. -/
def tips : Fault → List String
  | .unexpected _ _ ts _ => ts
  | _ => []

/-- The usage line a report shows, if any. -/
def usage : Fault → Option String
  | .unexpected _ _ _ u | .similarCommand _ _ u | .unknownCommand _ u | .unknownTopic _ u
  | .missingCommand _ _ u
  | .missing _ u | .repeated _ u | .extraValue _ _ u => some u
  | _ => none

/-- The tip naming similar names. -/
def similarTip (kind : String) : List String → String
  | [s] => "  tip: a similar " ++ kind ++ " exists: '" ++ s ++ "'"
  | ss => "  tip: some similar " ++ kind ++ "s exist: " ++ ", ".intercalate (ss.map fun s => "'" ++ s ++ "'")

/-- The whole report. -/
def render (f : Fault) : String :=
  let s1 := match f.similar with
    | some (kind, ss) => "\n\n" ++ similarTip kind ss
    | none => ""
  let s2 := if f.tips.isEmpty then ""
    else (if f.similar.isSome then "" else "\n") ++ String.join (f.tips.map ("\n  tip: " ++ ·))
  let s3 := match f.usage with
    | some u => "\n\n" ++ u
    | none => ""
  let pointer := match f with
    | .unknownTopic .. => ""
    | _ => "\n\nFor more information, try '--help'."
  "error: " ++ f.headline ++ s1 ++ s2 ++ s3 ++ pointer ++ "\n"

end Fault

/-- Why a command line stops the tool before it runs. -/
inductive Stop where
  /-- Help or the version, shown as asked. -/
  | shown (text : String)
  /-- Help shown because nothing was given. -/
  | bare (text : String)
  /-- A mistake. -/
  | fault (f : Fault)
  deriving DecidableEq, Repr

namespace Stop

/-- The text shown. -/
def text : Stop → String
  | .shown t | .bare t => t
  | .fault f => f.render

/-- Whether the text goes to standard error. -/
def toError : Stop → Bool
  | .shown _ => false
  | _ => true

/-- The exit code. -/
def code : Stop → Nat
  | .shown _ => 0
  | _ => 2

end Stop
end ChangeLog.Cli
