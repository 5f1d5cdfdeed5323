import ChangeLog.Script.Stream
/-
  Sessions over an event store and a cursor registry, with no stream in front: appends
  take any type, reads answer the store's own failures, and cursor reads have no batch
  limit. The registry outlives the store, so cursors survive reopening a durable one.
-/

namespace ChangeLog.Script

open Json

/-- The answer when no store is open. -/
def noStore : Value := failure "NoStore" "store is not open"

/-- A session over one event store and a cursor registry. -/
structure StoreSession where
  disk : Disk
  durable : Bool
  mode : SyncMode
  store : Option EventStore
  cursors : CursorRegistry := {}
  issued : Issued := {}

namespace StoreSession

/-- The path of the events journal. -/
def eventsPath : String := Disk.join scratch eventsFile

/-- Answers from the open store. -/
def withStore (s : StoreSession) (k : EventStore → StoreSession × Value) : StoreSession × Value :=
  match s.store with
  | some st => k st
  | none => (s, noStore)

/-- Runs an operation on the open store. -/
def exec {α : Type} (s : StoreSession) (limited : Bool) (m : Within EventStore StoreError α)
    (k : StoreSession → α → StoreSession × Value) : StoreSession × Value :=
  s.withStore fun st =>
    match m.run' st { s.disk with limited := limited } with
    | (.ok a, st', d) => k { s with store := some st', disk := { d with limited := false } } a
    | (.error e, st', d) =>
      let s' := { s with store := some st', disk := { d with limited := false } }
      (s', storeFailureOn s'.disk e)

/-- Answers a pure read of the store. -/
def read {α : Type} (s : StoreSession) (r : EventStore → Except StoreError α) (k : α → Value) :
    StoreSession × Value :=
  s.withStore fun st =>
    match r st with
    | .ok a => (s, k a)
    | .error e => (s, storeFailureOn s.disk e)

/-- Answers a pure step of the cursors or replay. -/
def streamRead {α : Type} (s : StoreSession) (r : Except StreamError α) (k : α → StoreSession × Value) :
    StoreSession × Value :=
  match r with
  | .ok a => k a
  | .error e => (s, streamFailure s.issued s.disk e)

/-- Opens the durable store of the scratch directory. -/
def reopen (s : StoreSession) (limited : Bool) : StoreSession × Value :=
  match onDisk s.disk limited (EventStore.openDir scratch s.mode) with
  | (.ok st, d) => ({ s with store := some st, disk := d }, okay)
  | (.error e, d) => ({ s with store := none, disk := d }, storeFailureOn d e)

/-- Refuses a step that needs the other kind of store. -/
def needs (s : StoreSession) (durable : Bool) (step : String) (k : Unit → StoreSession × Value) :
    StoreSession × Value :=
  if s.durable = durable then k ()
  else (s, badInput (step ++ (if durable then " needs wal" else " needs memory")))

/-- Reads fields, answering a malformed step when they are wrong. -/
def withArgs {α : Type} (s : StoreSession) (r : Except String α) (k : α → StoreSession × Value) :
    StoreSession × Value :=
  match r with
  | .ok a => k a
  | .error m => (s, badInput m)

/-- Reads a cursor, answering an identifier failure when it is not one. -/
def withCursor (s : StoreSession) (f : Fields) (k : CursorId → StoreSession × Value) :
    StoreSession × Value :=
  s.withArgs (f.str "cursor") fun text =>
    match s.issued.cursorOf text with
    | .ok id => k id
    | .error e => (s, s.issued.idFailure e)

/-- The text the memory store shows of itself. -/
def debugText (st : EventStore) : String :=
  "InMemoryEventStore \x7b next_offset: " ++ toString st.nextOffset ++ ", closed: " ++
    toString st.isClosed ++ " \x7d"

/-- Reads a cursor's events, with no limit but the count asked. -/
def readCursor (s : StoreSession) (f : Fields) (k : Issued → List ChangeEvent → Nat → Value) :
    StoreSession × Value :=
  s.withCursor f fun id => s.withArgs (f.u64 "max") fun max => s.withStore fun st =>
    s.streamRead (s.cursors.readBatch st id max) fun (r, es, pos) =>
      ({ s with cursors := r }, k s.issued es pos)

/-- Runs one step. -/
def step (s : StoreSession) (f : Fields) : StoreSession × Value :=
  match f.str "do", f.flag "disk_full" with
  | .error m, _ | _, .error m => (s, badInput m)
  | .ok name, .ok limited =>
    match name with
    | "next_offset" => s.withStore fun st => (s, obj [("next_offset", .nat st.nextOffset)])
    | "append" => s.withArgs f.newEvent fun e =>
      s.exec limited (EventStore.append e s.issued.now) fun s' ev =>
        let s'' := { s' with issued := s'.issued.stamped ev }
        (s'', s''.issued.eventView ev)
    | "get" => s.withArgs (f.u64 "offset") fun o =>
      s.read (·.get? o) fun ev? => obj [("event", match ev? with
        | some ev => s.issued.eventView ev
        | none => .null)]
    | "read_range" => s.withArgs (do pure (← f.u64 "from", ← f.u64 "to")) fun (lo, hi) =>
      s.read (·.readRange lo hi) fun es => obj [("events", s.issued.eventsView es)]
    | "subscribe" => s.withArgs (do pure (← f.u64 "from", ← f.optStr "owner")) fun (lo, owner) =>
      s.withStore fun st =>
        s.streamRead (s.cursors.subscribe st s.issued.nextCursor lo owner) fun r =>
          ({ s with cursors := r, issued := s.issued.opened },
            obj [("cursor", .str (Issued.handle s.issued.cursors))])
    | "read" => s.readCursor f fun i es _ => obj [("events", i.eventsView es)]
    | "read_batch" => s.readCursor f fun i es pos =>
      obj [("events", i.eventsView es), ("position", .nat pos)]
    | "unsubscribe" => s.withCursor f fun id =>
      s.streamRead (s.cursors.unsubscribe id) fun r => ({ s with cursors := r }, okay)
    | "info" => s.withCursor f fun id =>
      s.streamRead (s.cursors.info id) fun c =>
        (s, obj [("cursor", .str (s.issued.showCursor id)), ("owner", .strOpt c.owner),
          ("from_offset", .nat c.fromOffset), ("position", .nat c.position)])
    | "cursor_count" =>
      (s, obj [("len", .nat s.cursors.size), ("is_empty", .bool (s.cursors.size = 0))])
    | "replay" => s.withArgs (do pure (← f.u64 "from", ← f.u64 "to")) fun (lo, hi) =>
      s.withStore fun st => s.streamRead (Replay.range st lo hi) fun es =>
        (s, obj [("events", s.issued.eventsView es)])
    | "replay_from" => s.withArgs (f.u64 "from") fun lo =>
      s.withStore fun st => s.streamRead (Replay.fromOffset st lo) fun es =>
        (s, obj [("events", s.issued.eventsView es)])
    | "close" => s.exec limited EventStore.close fun s' () => (s', okay)
    | "is_closed" => s.withStore fun st => (s, obj [("closed", .bool st.isClosed)])
    | "len" => s.needs false name fun () => s.withStore fun st =>
      (s, obj [("len", .nat st.nextOffset), ("is_empty", .bool (st.nextOffset = 0))])
    | "debug" => s.needs false name fun () => s.withStore fun st =>
      (s, obj [("debug", .str (debugText st))])
    | "path" => s.needs true name fun () => s.withStore fun _ =>
      (s, obj [("path", .str eventsPath)])
    | "reopen" => s.needs true name fun () => s.reopen limited
    | "crash" => s.needs true name fun () => ({ s with store := none }, okay)
    | "damage" => s.needs true name fun () => s.withArgs f.damage fun damage =>
      let (d, a) := damageDisk s.disk eventsPath damage
      ({ s with disk := d, store := none }, a)
    | other => (s, badInput ("unknown step " ++ other))

end StoreSession

/-- The answer of a command over an event store and cursors. -/
def storesAnswer (f : Fields) : Value :=
  match f.syncMode, f.list "steps", f.str "backend" (some "memory") with
  | .error m, _, _ | _, .error m, _ | _, _, .error m => badInput m
  | .ok mode, .ok steps, .ok name =>
    let run (s : StoreSession) := stepsAnswer (runSteps StoreSession.step s steps)
    match name with
    | "memory" => run ⟨Disk.fresh, false, mode, some {}, {}, {}⟩
    | "wal" =>
      match onDisk Disk.fresh false (EventStore.openDir scratch mode) with
      | (.ok st, d) => run ⟨d, true, mode, some st, {}, {}⟩
      | (.error e, d) => openFailure (storeFailureOn d e)
    | other => badInput ("unknown backend " ++ other)

end ChangeLog.Script
