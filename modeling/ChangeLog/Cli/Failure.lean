import ChangeLog.Server.Error
/-
  Why a command failed, as a chain: what was being done, and below it each cause in turn.
  The report puts the first line after "Error: " and lists the causes under "Caused by:",
  indented by four columns on every line; when there are two causes or more each is numbered.
-/

namespace ChangeLog.Cli

/-- A failure with the chain of its causes, outermost first. -/
structure Failure where
  message : String
  causes : List String := []
  deriving DecidableEq, Repr

namespace Failure

/-- A failure of a stream, which names no cause. -/
def ofStream (e : StreamError) : Failure := ⟨e.message, []⟩

/-- A failure of the server; an I/O failure names the system's error as its cause. -/
def ofServer : ServerError → Failure
  | .io e => ⟨"I/O error: " ++ e.message, [e.message]⟩
  | e => ⟨e.message, []⟩

/-- A failure seen as the cause of what was being done. -/
def context (what : String) (f : Failure) : Failure := ⟨what, f.message :: f.causes⟩

/-- Indents every line after the first. -/
def indentRest (pad s : String) : String := ("\n" ++ pad).intercalate (s.splitOn "\n")

/-- A number right-aligned in five columns. -/
def number (n : Nat) : String :=
  let t := toString n
  String.ofList (List.replicate (5 - t.length) ' ') ++ t

/-- The causes, as listed under "Caused by:". -/
def causeLines : List String → String
  | [] => ""
  | [c] => "\n    " ++ indentRest "    " c
  | cs => String.join ((List.range cs.length).zip cs |>.map fun (n, c) =>
      "\n" ++ number n ++ ": " ++ indentRest "       " c)

/-- The report of a failure. -/
def render (f : Failure) : String :=
  "Error: " ++ f.message ++ (if f.causes.isEmpty then "" else "\n\nCaused by:" ++ causeLines f.causes)

end Failure
end ChangeLog.Cli
