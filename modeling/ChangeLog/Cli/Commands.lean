import ChangeLog.Cli.Interface
import ChangeLog.Cli.Failure
import ChangeLog.Server.Router
/-
  What each subcommand does to the data directory and what it prints. Every subcommand opens
  the durable stream of the data directory, failing with "opening change log in" the
  directory when it cannot. Events print as one line each, with their offset, short id, type,
  source and time, followed by their images; an image that is UTF-8 text prints as text and
  any other in hexadecimal after "0x". In JSON format, events, progress and the summary print
  as indented JSON. Lines printed before a failure stay printed.
-/

namespace ChangeLog.Cli

open Json

/-- A computation of a command: it prints lines and changes the disk, and may fail. -/
abbrev Run (α : Type) := Within (List String) Failure α

/-- What a command needs from outside: the time and the id of a cursor it opens. -/
structure Context where
  now : Instant
  cursor : CursorId

/-- What a run of the tool gives: its exit code and its two outputs. -/
structure Outcome where
  code : Nat
  stdout : String
  stderr : String
  deriving DecidableEq, Repr

/-- Prints a line. -/
def say (line : String) : Run Unit := fun (out, d) => .ok () (out ++ [line], d)

/-- Runs a stream computation on a stream, giving the result and the stream after it. -/
def onStream {α : Type} (s : ChangeStream) (m : Within ChangeStream StreamError α) :
    Run (α × ChangeStream) := fun (out, d) =>
  match m.run' s d with
  | (.ok a, s', d') => .ok (a, s') (out, d')
  | (.error e, _, d') => .error (Failure.ofStream e) (out, d')

/-- Opens the stream of a data directory. -/
def openStream (dir : String) (mode : SyncMode) : Run ChangeStream := fun (out, d) =>
  match (ChangeStream.openDir dir mode {}).run d with
  | .ok s d' => .ok s (out, d')
  | .error e d' => .error ((Failure.ofStream e).context ("opening change log in " ++ dir)) (out, d')

/-- Fails unless a result is there. -/
def expect {α : Type} (r : Except Failure α) : Run α :=
  match r with
  | .ok a => pure a
  | .error f => throw f

/-- A consumer named on the command line. -/
def consumerOf (name : String) : Run ConsumerId :=
  expect ((ConsumerId.ofText name).mapError fun e => ⟨e.message, []⟩)

/-- An image given on the command line, as text or in hexadecimal. -/
def payload (text : String) (hex : Bool) : Run Bytes :=
  if hex then
    expect ((Hex.decode text).mapError fun e =>
      Failure.context ("invalid hex payload " ++ Text.quote text) ⟨e.message, []⟩)
  else pure text.toUTF8.toList

/-- An image as printed: its text when it is UTF-8, else its hexadecimal after "0x". -/
def payloadText (bs : Bytes) : String :=
  match String.fromUTF8? (ByteArray.mk bs.toArray) with
  | some s => s
  | none => "0x" ++ Hex.encode bs

/-- The lines of an event in text format. -/
def eventLines (e : ChangeEvent) : List String :=
  ["#" ++ toString e.offset ++ "  " ++ e.id.short ++ "  " ++ e.eventType ++ "  " ++ e.source ++ "  " ++
      Rfc3339.format .offset e.timestamp] ++
    (if e.before.isEmpty then [] else ["  before: " ++ payloadText e.before]) ++
    (if e.after.isEmpty then [] else ["  after:  " ++ payloadText e.after])

/-- Prints events in a format. -/
def printEvents (f : Format) (es : List ChangeEvent) : Run Unit :=
  match f with
  | .json => say (Value.arr (es.map Api.eventView)).pretty
  | .text => (es.flatMap eventLines).forM say

/-- The line that says how far a consumer acknowledged. -/
def ackLine (c : ConsumerId) (p : Nat) : String := "✓ " ++ c.raw ++ " acknowledged through " ++ toString p

/-- Appends one event. -/
def appendEvent (ctx : Context) (inv : Invocation) (eventType before after source : String) (hex : Bool)
    (sync : Option SyncMode) : Run Unit := do
  let s ← openStream inv.dataDir (sync.getD .osDefault)
  let b ← payload before hex
  let a ← payload after hex
  let (ev, s) ← onStream s (ChangeStream.append { eventType, source, before := b, after := a } ctx.now)
  let _ ← onStream s ChangeStream.close
  match inv.format with
  | .json => say (Value.obj [("event_id", .str ev.id.toHex), ("offset", .nat ev.offset)]).compact
  | .text => say ("✓ Appended " ++ ev.eventType ++ " at offset " ++ toString ev.offset)

/-- Shows the event at an offset. -/
def getEvent (inv : Invocation) (offset : Nat) : Run Unit := do
  let s ← openStream inv.dataDir .osDefault
  match s.get offset with
  | .ok e => printEvents inv.format [e]
  | .error e => throw (Failure.ofStream e)

/-- Prints a closed range of events, or the events from an offset on. -/
def replayEvents (inv : Invocation) (lo : Nat) (hi : Option Nat) : Run Unit := do
  let s ← openStream inv.dataDir .osDefault
  let (es, _) ← onStream s (match hi with
    | some h => ChangeStream.replay lo h
    | none => ChangeStream.replayFrom lo)
  printEvents inv.format es

/-- Reads what a consumer has not acknowledged, and acknowledges it when asked. -/
def consume (ctx : Context) (inv : Invocation) (name : String) (max : Nat) (ack : Bool) : Run Unit := do
  let s ← openStream inv.dataDir .osDefault
  let c ← consumerOf name
  let (start, s) ← onStream s (ChangeStream.resumeOffset c)
  let ((), s) ← onStream s (ChangeStream.subscribe ctx.cursor start (some c.raw))
  let ((es, _), s) ← onStream s (ChangeStream.readBatch ctx.cursor max)
  let ((), s) ← onStream s (ChangeStream.unsubscribe ctx.cursor)
  printEvents inv.format es
  let s ← match ack, es.getLast? with
    | true, some last => do
      let (p, s) ← onStream s (ChangeStream.acknowledge c last.offset)
      if inv.format = .text then say (ackLine c p)
      pure s
    | _, _ => do
      if es.isEmpty && inv.format = .text then say (c.raw ++ " is caught up.")
      pure s
  let _ ← onStream s ChangeStream.close

/-- Acknowledges a consumer's progress. -/
def acknowledge (inv : Invocation) (name : String) (offset : Nat) : Run Unit := do
  let s ← openStream inv.dataDir .osDefault
  let c ← consumerOf name
  let (p, s) ← onStream s (ChangeStream.acknowledge c offset)
  let _ ← onStream s ChangeStream.close
  say (ackLine c p)

/-- Shows the progress of one consumer or of all. -/
def showProgress (inv : Invocation) (name : Option String) : Run Unit := do
  let s ← openStream inv.dataDir .osDefault
  let rows ← match name with
    | some n => do
      let c ← consumerOf n
      let (p, _) ← onStream s (ChangeStream.progress c)
      pure [(c.raw, p)]
    | none => do
      let (cs, _) ← onStream s ChangeStream.consumers
      pure (cs.map fun (c, o) => (c.raw, some o))
  match inv.format with
  | .json => say (Value.arr (rows.map fun (c, o) =>
      .obj [("acknowledged_offset", .natOpt o), ("consumer", .str c)])).pretty
  | .text =>
    if rows.isEmpty then say "No consumers have acknowledged anything."
    else rows.forM fun (c, o) => say (match o with
      | some o => c ++ "  " ++ toString o
      | none => c ++ "  (no progress)")

/-- Summarizes the data directory. -/
def inspect (inv : Invocation) : Run Unit := do
  let s ← openStream inv.dataDir .osDefault
  let st := s.stats
  let (_, d) ← get
  let size (name : String) : Nat := ((d.lengthOf (Disk.join inv.dataDir name)).toOption).getD 0
  match inv.format with
  | .json => say (Value.obj [("data_dir", .str inv.dataDir), ("events_bytes", .nat (size eventsFile)),
      ("next_offset", .nat st.nextOffset), ("progress_bytes", .nat (size progressFile)),
      ("tracked_consumers", .nat st.trackedConsumers)]).pretty
  | .text => do
    say ("Change log in " ++ inv.dataDir)
    say ("  Events:    " ++ toString st.nextOffset)
    say ("  Consumers: " ++ toString st.trackedConsumers)
    say ("  " ++ eventsFile ++ "  " ++ toString (size eventsFile) ++ " bytes")
    say ("  " ++ progressFile ++ "  " ++ toString (size progressFile) ++ " bytes")

/-- Runs the server until it is told to stop. -/
def serve (inv : Invocation) (config : Option String) (bind : Option SocketAddr) (memory : Bool)
    (sync : Option SyncMode) (maxReadBatch : Option Nat) : Run Unit := do
  let (_, d) ← get
  let base ← match config with
    | some path => expect ((ServerConfig.ofFile d path).mapError fun e =>
        (Failure.ofServer e).context ("loading " ++ path))
    | none => pure { dataDir := some inv.dataDir }
  let c : ServerConfig :=
    { base with bindAddr := bind.getD base.bindAddr, syncMode := sync.getD base.syncMode,
                maxReadBatch := maxReadBatch.getD base.maxReadBatch,
                dataDir := if memory then none else base.dataDir }
  fun (out, d) =>
    match (Server.openWith c).run d with
    | .error e d' => .error (Failure.ofServer e) (out, d')
    | .ok server d' =>
      match Server.serve.run' server d' with
      | (.ok (), _, d'') => .ok () (out, d'')
      | (.error e, _, d'') => .error (Failure.ofServer e) (out, d'')

/-- Runs an invocation. -/
def execute (ctx : Context) (inv : Invocation) : Run Unit :=
  match inv.command with
  | .append ty b a src hex sync => appendEvent ctx inv ty b a src hex sync
  | .get o => getEvent inv o
  | .replay lo hi => replayEvents inv lo hi
  | .consume c max ack => consume ctx inv c max ack
  | .ack c o => acknowledge inv c o
  | .progress c => showProgress inv c
  | .inspect => inspect inv
  | .serve cfg bind memory sync max => serve inv cfg bind memory sync max

/-- Lines as printed, each ending in a line break. -/
def printed (lines : List String) : String := String.join (lines.map (· ++ "\n"))

/-- Runs the tool on a command line: reads it, then runs what it asks. -/
def runTool (ctx : Context) (words : List String) (d : Disk) : Outcome × Disk :=
  match read words with
  | .error stop =>
    (if stop.toError then ⟨stop.code, "", stop.text⟩ else ⟨stop.code, stop.text, ""⟩, d)
  | .ok inv =>
    match (execute ctx inv).run ([], d) with
    | .ok () (out, d') => (⟨0, printed out, ""⟩, d')
    | .error f (out, d') => (⟨1, printed out, f.render ++ "\n"⟩, d')

end ChangeLog.Cli
