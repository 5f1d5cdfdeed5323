import ChangeLog.Script.Session
/-
  Sessions over a change stream. The stream is kept in memory, or over durable stores in
  the scratch directory; a durable stream can be dropped without closing, opened again
  from its files, and have its files damaged in between. A memory stream may start from
  seeded stores, whose events skip the check of the type.
-/

namespace ChangeLog.Script

open Json

/-- Where a session keeps its stream. -/
inductive Backend where
  | memory
  | durable
  | sharedMemory
  | sharedDurable
  deriving DecidableEq, Repr

/-- A backend by its name. -/
def Backend.ofName? : String → Option Backend
  | "memory" => some .memory
  | "durable" => some .durable
  | "shared_memory" => some .sharedMemory
  | "shared_wal" => some .sharedDurable
  | _ => none

/-- Whether the backend keeps its stores in files. -/
def Backend.isDurable : Backend → Bool
  | .durable | .sharedDurable => true
  | _ => false

/-- The answer when no stream is open. -/
def noStream : Value := failure "NoStream" "stream is not open"

/-- A session over one change stream. -/
structure StreamSession where
  disk : Disk
  backend : Backend
  mode : SyncMode
  maxReadBatch : Nat
  stream : Option ChangeStream
  issued : Issued := {}

/-- The journal file a step names. -/
def journalFile? : String → Option String
  | "events" => some eventsFile
  | "progress" => some progressFile
  | _ => none

namespace StreamSession

/-- Runs an operation on the open stream, then goes on from its result. -/
def exec {α : Type} (s : StreamSession) (limited : Bool) (m : Within ChangeStream StreamError α)
    (k : StreamSession → α → StreamSession × Value) : StreamSession × Value :=
  match s.stream with
  | none => (s, noStream)
  | some st =>
    match m.run' st { s.disk with limited := limited } with
    | (.ok a, st', d) => k { s with stream := some st', disk := { d with limited := false } } a
    | (.error e, st', d) =>
      let s' := { s with stream := some st', disk := { d with limited := false } }
      (s', streamFailure s'.issued s'.disk e)

/-- Runs an operation whose answer needs only its result. -/
def answer {α : Type} (s : StreamSession) (limited : Bool) (m : Within ChangeStream StreamError α)
    (k : α → Value) : StreamSession × Value :=
  s.exec limited m fun s' a => (s', k a)

/-- Answers from the open stream, changing nothing. -/
def view (s : StreamSession) (k : ChangeStream → Value) : StreamSession × Value :=
  match s.stream with
  | none => (s, noStream)
  | some st => (s, k st)

/-- Opens the stream of the scratch directory. -/
def reopen (s : StreamSession) (limited : Bool) (maxReadBatch : Nat) : StreamSession × Value :=
  match onDisk s.disk limited (ChangeStream.openDir scratch s.mode ⟨maxReadBatch⟩) with
  | (.ok st, d) => ({ s with stream := some st, disk := d, maxReadBatch }, okay)
  | (.error e, d) => ({ s with stream := none, disk := d }, streamFailure s.issued d e)

/-- Refuses a step that needs files when the stream has none. -/
def durableOnly (s : StreamSession) (step : String) (k : Unit → StreamSession × Value) :
    StreamSession × Value :=
  if s.backend.isDurable then k () else (s, badInput (step ++ " needs a durable backend"))

/-- Reads fields, answering a malformed step when they are wrong. -/
def withArgs {α : Type} (s : StreamSession) (r : Except String α) (k : α → StreamSession × Value) :
    StreamSession × Value :=
  match r with
  | .ok a => k a
  | .error m => (s, badInput m)

/-- Reads a cursor, answering an identifier failure when it is not one. -/
def withCursor (s : StreamSession) (f : Fields) (k : CursorId → StreamSession × Value) :
    StreamSession × Value :=
  s.withArgs (f.str "cursor") fun text =>
    match s.issued.cursorOf text with
    | .ok id => k id
    | .error e => (s, s.issued.idFailure e)

/-- Reads a consumer, answering a stream failure when it is not one. -/
def withConsumer (s : StreamSession) (text : String) (k : ConsumerId → StreamSession × Value) :
    StreamSession × Value :=
  match ConsumerId.ofText text with
  | .ok c => k c
  | .error e => (s, streamFailure s.issued s.disk (.invalidConsumer e))

/-- Runs one step. -/
def step (s : StreamSession) (f : Fields) : StreamSession × Value :=
  match f.str "do", f.flag "disk_full" with
  | .error m, _ | _, .error m => (s, badInput m)
  | .ok name, .ok limited =>
    match name with
    | "append" => s.withArgs f.newEvent fun e =>
      s.exec limited (ChangeStream.append e s.issued.now) fun s' ev =>
        let s'' := { s' with issued := s'.issued.stamped ev }
        (s'', s''.issued.eventView ev)
    | "next_offset" => s.view fun st => obj [("next_offset", .nat st.nextOffset)]
    | "get" => s.withArgs (f.u64 "offset") fun o => s.view fun st =>
      match st.get o with
      | .ok ev => s.issued.eventView ev
      | .error e => streamFailure s.issued s.disk e
    | "subscribe" => s.withArgs (do pure (← f.u64 "from", ← f.optStr "owner")) fun (lo, owner) =>
      s.exec limited (ChangeStream.subscribe s.issued.nextCursor lo owner) fun s' () =>
        ({ s' with issued := s'.issued.opened }, obj [("cursor", .str (Issued.handle s'.issued.cursors))])
    | "read" => s.withCursor f fun id => s.withArgs (f.u64 "max") fun max =>
      s.answer limited (ChangeStream.readBatch id max) fun (es, _) =>
        obj [("events", s.issued.eventsView es)]
    | "read_batch" => s.withCursor f fun id => s.withArgs (f.u64 "max") fun max =>
      s.answer limited (ChangeStream.readBatch id max) fun (es, pos) =>
        obj [("events", s.issued.eventsView es), ("position", .nat pos)]
    | "unsubscribe" => s.withCursor f fun id =>
      s.answer limited (ChangeStream.unsubscribe id) fun () => okay
    | "cursor_info" => s.withCursor f fun id =>
      s.answer limited (ChangeStream.cursorInfo id) fun c =>
        obj [("cursor", .str (s.issued.showCursor id)), ("owner", .strOpt c.owner),
          ("from_offset", .nat c.fromOffset), ("position", .nat c.position)]
    | "ack" => s.withArgs (do pure (← f.str "consumer", ← f.u64 "offset")) fun (text, o) =>
      s.withConsumer text fun c =>
        s.answer limited (ChangeStream.acknowledge c o) fun p => obj [("progress", .nat p)]
    | "progress" => s.withArgs (f.str "consumer") fun text => s.withConsumer text fun c =>
      s.answer limited (ChangeStream.progress c) fun p => obj [("progress", .natOpt p)]
    | "resume_offset" => s.withArgs (f.str "consumer") fun text => s.withConsumer text fun c =>
      s.answer limited (ChangeStream.resumeOffset c) fun p => obj [("resume_offset", .nat p)]
    | "consumers" => s.answer limited ChangeStream.consumers fun ps =>
      obj [("consumers", progressView ps)]
    | "replay" => s.withArgs (do pure (← f.u64 "from", ← f.u64 "to")) fun (lo, hi) =>
      s.answer limited (ChangeStream.replay lo hi) fun es => obj [("events", s.issued.eventsView es)]
    | "replay_from" => s.withArgs (f.u64 "from") fun lo =>
      s.answer limited (ChangeStream.replayFrom lo) fun es => obj [("events", s.issued.eventsView es)]
    | "close" => s.answer limited ChangeStream.close fun () => okay
    | "is_closed" => s.view fun st => obj [("closed", .bool st.isClosed)]
    | "stats" => s.view fun st =>
      let t := st.stats
      obj [("next_offset", .nat t.nextOffset), ("open_cursors", .nat t.openCursors),
        ("tracked_consumers", .nat t.trackedConsumers), ("closed", .bool t.closed)]
    | "config" => s.view fun st => obj [("max_read_batch", .nat st.config.maxReadBatch)]
    | "crash" => s.durableOnly name fun () => ({ s with stream := none }, okay)
    | "reopen" => s.durableOnly name fun () =>
      s.withArgs (f.u64 "max_read_batch" (some s.maxReadBatch)) fun mrb => s.reopen limited mrb
    | "damage" => s.durableOnly name fun () =>
      s.withArgs (f.str "file" (some "progress")) fun file =>
        match journalFile? file with
        | none => (s, badInput ("unknown file " ++ file))
        | some name => s.withArgs f.damage fun damage =>
          let (d, a) := damageDisk s.disk (Disk.join scratch name) damage
          ({ s with disk := d, stream := none }, a)
    | "file_len" => s.durableOnly name fun () =>
      s.withArgs (f.str "file" (some "progress")) fun file =>
        match file with
        | "progress" => (s, fileLength s.disk (Disk.join scratch progressFile))
        | "events" => (s, badInput "file_len refuses the events file")
        | other => (s, badInput ("unknown file " ++ other))
    | other => (s, badInput ("unknown step " ++ other))

end StreamSession

/-- A seeded progress entry: a consumer and an offset. -/
def seedEntry : Value → Except String (ConsumerId × Nat)
  | .arr [.str c, .int o] =>
    if 0 ≤ o ∧ o < 18446744073709551616 then
      match ConsumerId.ofText c with
      | .ok id => .ok (id, o.toNat)
      | .error e => .error e.message
    else .error "seed progress offset must be a non-negative integer"
  | _ => .error "seed progress must be [consumer, offset] pairs"

/-- Appends seeded events straight to a store, with no check of their types. -/
def seedEvents (store : EventStore) (issued : Issued) :
    List NewEvent → EventStore × Issued
  | [] => (store, issued)
  | e :: rest =>
    let stamped := e.stamp store.nextOffset issued.now
    seedEvents { store with log := store.log.publish stamped } (issued.stamped stamped) rest

/-- The stores of a seed: events, progress, and whether the event store is closed. -/
def Fields.seed (f : Fields) : Except String (List NewEvent × List (ConsumerId × Nat) × Bool) := do
  let events ← f.list "events"
  let events ← events.mapM fun v => Fields.newEvent ⟨v⟩
  let progress ← f.list "progress"
  let progress ← progress.mapM seedEntry
  let closed ← f.flag "closed"
  pure (events, progress, closed)

/-- The answer of a stream command. -/
def streamAnswer (f : Fields) : Value :=
  match f.syncMode, f.list "steps", f.u64 "max_read_batch" (some 100),
      f.str "backend" (some "memory") with
  | .error m, _, _, _ | _, .error m, _, _ | _, _, .error m, _ | _, _, _, .error m => badInput m
  | .ok mode, .ok steps, .ok mrb, .ok name =>
    let config : StreamConfig := ⟨mrb⟩
    match Backend.ofName? name with
    | none => openFailure (badInput ("unknown backend " ++ name))
    | some backend =>
      let session : StreamSession := ⟨Disk.fresh, backend, mode, mrb, none, {}⟩
      let run (s : StreamSession) := stepsAnswer (runSteps StreamSession.step s steps)
      if backend.isDurable then
        match onDisk session.disk false (ChangeStream.openDir scratch mode config) with
        | (.ok st, d) => run { session with stream := some st, disk := d }
        | (.error e, d) => openFailure (streamFailure session.issued d e)
      else
        match f.sub? "seed", backend with
        | some seed, .memory =>
          match seed.seed with
          | .error m => badInput m
          | .ok (events, progress, closed) =>
            let (store, issued) := seedEvents {} {} events
            let store := if closed then { store with log := { store.log with closed := true } } else store
            let pstore : ProgressStore := ⟨progress.foldl (fun m (c, o) => m.record c o) {}, none, none⟩
            match onDisk session.disk false (ChangeStream.openWith store pstore config) with
            | (.ok st, d) => run { session with stream := some st, disk := d, issued }
            | (.error e, d) => openFailure (streamFailure issued d e)
        | _, _ => run { session with stream := some (ChangeStream.inMemory config) }

end ChangeLog.Script
