import ChangeLog.Cli.Fault
/-
  Reading a command line, one level at a time. The words are read from the left: a word that
  names a subcommand hands the rest to it; "--" makes every later word a value; a word that
  starts with "--" is a long flag, with its value after "=" or in the next word; a word that
  starts with "-" is a cluster of short flags, the first that takes a value taking the rest of
  the word or the next word; any other word is the value an option waits for or the next
  positional value. A value is checked when the next argument is taken or the words end, so a
  bad value is reported before what follows it, except when what follows is not an argument
  at all. After the words, required values and the subcommand must be there.
-/

namespace ChangeLog.Cli

/-- The arguments given at one level, in the order they were taken, with their values. -/
abbrev Given := List (String × List String)

/-- The state of reading one level. -/
structure Reading where
  given : Given := []
  /-- The argument whose values are being gathered. -/
  pending : Option (Arg × List String) := none
  /-- The option waiting for its value in the next word. -/
  waiting : Bool := false
  /-- How many positional values were taken. -/
  position : Nat := 0
  /-- Whether "--" was seen. -/
  trailing : Bool := false

/-- A tool: its top level, the level of each subcommand, and its version line. -/
structure Tool where
  top : Level
  levels : List (String × Level)
  version : String

/-- What a command line says, when it is read to the end. -/
structure Parsed where
  top : Given
  command : String
  sub : Given

namespace Reading

/-- The ids of the arguments given. -/
def used (r : Reading) : List String := r.given.map (·.1)

/-- Takes an argument with its values, checking them. -/
def accept (lv : Level) (r : Reading) (a : Arg) (vs : List String) : Except Fault Reading := do
  if a.takesValue && vs.isEmpty then throw (.badValue a.display "" a.choices none)
  if r.given.any (·.1 == a.id) then throw (.repeated a.display (lv.usageLine []))
  for v in vs do
    match a.kind.check v with
    | .ok () => pure ()
    | .error .empty => throw (.badValue a.display "" a.choices none)
    | .error .notChoice => throw (.badValue a.display v a.choices (similarNames v a.choices).getLast?)
    | .error (.invalid reason) => throw (.unreadable a.display v reason)
  pure { r with given := r.given ++ [(a.id, vs)] }

/-- Takes the argument whose values were being gathered. -/
def settle (lv : Level) (r : Reading) : Except Fault Reading :=
  match r.pending with
  | none => .ok r
  | some (a, vs) => accept lv { r with pending := none } a vs

/-- Takes the argument whose values were being gathered before a mistake is reported,
keeping it as given even when its values are bad. -/
def settleLoosely (r : Reading) : Reading :=
  match r.pending with
  | none => r
  | some (a, vs) =>
    let r := { r with pending := none }
    if a.takesValue && vs.isEmpty then r
    else if r.given.any (·.1 == a.id) then { r with given := r.given.filter (·.1 != a.id) }
    else { r with given := r.given ++ [(a.id, vs)] }

end Reading

/-- Acts on an argument named by a flag: help and the version stop the reading. -/
def Tool.react (t : Tool) (lv : Level) (r : Reading) (a : Arg) (vs : List String) :
    Except Stop Reading := do
  let r ← (r.settle lv).mapError .fault
  match a.shape with
  | .help => throw (.shown lv.helpText)
  | .version => throw (.shown t.version)
  | _ => (Reading.accept lv r a vs).mapError .fault

/-- The tip for passing a word that looks like a flag as a value. -/
def valueTip (word : String) : String := "to pass '" ++ word ++ "' as a value, use '-- " ++ word ++ "'"

/-- The mistake of a long flag that does not exist: a similar flag of the level is suggested,
or else a subcommand named later whose flag is similar. -/
def Tool.unknownLong (t : Tool) (lv : Level) (r : Reading) (name : String) (later : List String) :
    Fault :=
  let r := r.settleLoosely
  match (similarNames name lv.longs).getLast? with
  | some c =>
    -- the suggested flag counts as taken
    let used := match lv.findLong c with
      | some a => if r.used.contains a.id then r.used else r.used ++ [a.id]
      | none => r.used
    .unexpected ("--" ++ name) (some ("--" ++ c)) [] (lv.usageAfter used [])
  | none =>
    let viaCommand := lv.commands.filterMap fun (n, _) => do
      let sub ← t.levels.lookup n
      let c ← (similarNames name sub.longs).getLast?
      let at_ ← later.idxOf? n
      pure (at_, n, c)
    let best := viaCommand.foldl (fun acc x => match acc with
      | some y => if x.1 < y.1 then some x else some y
      | none => some x) none
    let tips := match best with
      | some (_, n, c) => ["'" ++ n ++ " --" ++ c ++ "' exists"]
      | none => if !r.trailing && !lv.positionals.isEmpty then [valueTip ("--" ++ name)] else []
    .unexpected ("--" ++ name) none tips (lv.usageAfter r.used [])

/-- Reads a long flag, with the value after its "=" if any. -/
def Tool.long (t : Tool) (lv : Level) (r : Reading) (word : String) (later : List String) :
    Except Stop Reading :=
  let body := String.ofList (word.toList.drop 2)
  let (name, attached) := match body.splitOn "=" with
    | [] => ("", none)
    | [n] => (n, none)
    | n :: vs => (n, some ("=".intercalate vs))
  match lv.findLong name with
  | none => .error (.fault (t.unknownLong lv r name later))
  | some a =>
    if a.takesValue then
      match attached with
      | some v => t.react lv r a [v]
      | none => do
        let r ← (r.settle lv).mapError .fault
        pure { r with pending := some (a, []), waiting := true }
    else
      match attached with
      | some v =>
        let r := r.settleLoosely
        .error (.fault (.extraValue v a.display (lv.usageAfter r.used [a.id])))
      | none => t.react lv r a []

/-- Reads a cluster of short flags. -/
def Tool.shorts (t : Tool) (lv : Level) (r : Reading) : List Char → Except Stop Reading
  | [] => .ok r
  | c :: more =>
    match lv.findShort c with
    | none =>
      let r := r.settleLoosely
      let word := "-" ++ c.toString
      let tips := if !r.trailing && !lv.positionals.isEmpty then [valueTip word] else []
      .error (.fault (.unexpected word none tips (lv.usageLine [])))
    | some a =>
      if a.takesValue then
        let text := String.ofList more
        if text.isEmpty then do
          let r ← (r.settle lv).mapError .fault
          pure { r with pending := some (a, []), waiting := true }
        else
          let v := if text.startsWith "=" then String.ofList (more.drop 1) else text
          t.react lv r a [v]
      else do
        let r ← t.react lv r a []
        t.shorts lv r more

/-- The mistake of a word nothing expects. A subcommand named after "--" is refused as the
"--" itself, with a tip to remove it. -/
def unexpectedWord (lv : Level) (trailing : Bool) (word : String) : Fault :=
  if trailing && lv.commands.any (·.1 == word) then
    .unexpected "--" none
      ["subcommand '" ++ word ++ "' exists; to use it, remove the '--' before it"] (lv.usageLine [])
  else if lv.hasCommands then
    let similar := similarNames word (lv.commands.map (·.1))
    if !similar.isEmpty then .similarCommand word similar (lv.usageLine [])
    else if lv.positionals.isEmpty then .unknownCommand word (lv.usageLine [])
    else .unexpected word none [] (lv.usageLine [])
  else .unexpected word none [] (lv.usageLine [])

/-- Takes a word as the next positional value. -/
def positional (lv : Level) (r : Reading) (word : String) : Except Stop Reading :=
  match lv.positionals[r.position]? with
  | some p => do
    let r ← (r.settle lv).mapError .fault
    pure { r with pending := some (p, [word]), position := r.position + 1, waiting := false }
  | none =>
    let _ := r.settleLoosely
    .error (.fault (unexpectedWord lv r.trailing word))

/-- Shows the help of the subcommands named after "help". -/
def Tool.helpFor (t : Tool) (lv : Level) : List String → Stop
  | [] => .shown lv.helpText
  | n :: more =>
    match lv.commands.lookup n, t.levels.lookup n with
    | some _, some sub =>
      match more with
      | [] => .shown sub.helpText
      | m :: _ =>
        .fault (if sub.hasHelpFlag then .unknownCommand m (sub.usageLine [])
          else .unknownTopic m (sub.usageLine []))
    | _, _ => .fault (.unknownCommand n (lv.usageLine []))

/-- Reads the words of one level, up to the subcommand they name. -/
def Tool.walk (t : Tool) (lv : Level) (r : Reading) :
    List String → Except Stop (Reading × Option (String × List String))
  | [] => .ok (r, none)
  | w :: rest =>
    if !r.trailing && lv.commands.any (·.1 == w) then
      if w == "help" then .error (t.helpFor lv rest) else .ok (r, some (w, rest))
    else if !r.trailing && w == "--" then t.walk lv { r with trailing := true } rest
    else if !r.trailing && w.startsWith "--" then do
      let r ← t.long lv r w rest
      t.walk lv r rest
    else if !r.trailing && w.startsWith "-" && w.length > 1 then do
      let r ← t.shorts lv r (w.toList.drop 1)
      t.walk lv r rest
    else
      match r.pending, r.waiting && !r.trailing with
      | some (a, vs), true => t.walk lv { r with pending := some (a, vs ++ [w]), waiting := false } rest
      | _, _ => do
        let r ← positional lv r w
        t.walk lv r rest

/-- Checks that the required positional values of a level were given. -/
def required (lv : Level) (r : Reading) : Except Stop Unit :=
  let missing := (lv.positionals.filter fun p => p.isRequired && !r.used.contains p.id)
  if missing.isEmpty then .ok ()
  else .error (.fault (.missing (missing.map (·.usageForm true))
    (lv.usageLine (r.used ++ missing.map (·.id)))))

/-- Reads a command line: the top level, then the subcommand it names. -/
def Tool.parse (t : Tool) (words : List String) : Except Stop Parsed := do
  let (r, found) ← t.walk t.top {} words
  match found with
  | some (name, rest) =>
    match t.levels.lookup name with
    | none => throw (.fault (.unknownCommand name (t.top.usageLine [])))
    | some sub =>
      let (rs, _) ← t.walk sub {} rest
      let rs ← (rs.settle sub).mapError .fault
      required sub rs
      let r ← (r.settle t.top).mapError .fault
      pure ⟨r.given, name, rs.given⟩
  | none =>
    let r ← (r.settle t.top).mapError .fault
    if r.given.isEmpty then throw (.bare t.top.helpText)
    throw (.fault (.missingCommand t.top.name (t.top.commands.map (·.1)) (t.top.usageLine [])))

namespace Parsed

/-- The value of an argument: given to the subcommand, else given to the tool, else its
default. -/
def value (p : Parsed) (t : Tool) (id : String) : Option String :=
  match p.sub.lookup id, p.top.lookup id with
  | some (v :: _), _ => some v
  | _, some (v :: _) => some v
  | _, _ =>
    let arg := (t.levels.lookup p.command).bind (·.find id) <|> t.top.find id
    arg.bind (·.default)

/-- Whether a flag was given at either level. -/
def flag (p : Parsed) (id : String) : Bool :=
  p.sub.any (·.1 == id) || p.top.any (·.1 == id)

end Parsed
end ChangeLog.Cli
