import ChangeLog.Script.Stores
/-
  Sessions over progress: a progress store on its own, and an acknowledgment tracker over
  a store that is in memory, durable, or turns read-only after a number of writes.
-/

namespace ChangeLog.Script

open Json

/-- A session over one progress store. -/
structure ProgressSession where
  disk : Disk
  durable : Bool
  store : Option ProgressStore

/-- The path of the progress journal. -/
def progressPath : String := Disk.join scratch progressFile

namespace ProgressSession

/-- Runs an operation on the open store. -/
def exec {α : Type} (s : ProgressSession) (limited : Bool) (m : Within ProgressStore StoreError α)
    (k : α → Value) : ProgressSession × Value :=
  match s.store with
  | none => (s, noStore)
  | some st =>
    match m.run' st { s.disk with limited := limited } with
    | (.ok a, st', d) => ({ s with store := some st', disk := { d with limited := false } }, k a)
    | (.error e, st', d) =>
      ({ s with store := some st', disk := { d with limited := false } }, storeFailure e)

/-- Refuses a step that needs the other kind of store. -/
def needs (s : ProgressSession) (durable : Bool) (step : String)
    (k : Unit → ProgressSession × Value) : ProgressSession × Value :=
  if s.durable = durable then k ()
  else (s, badInput (step ++ (if durable then " needs wal" else " needs memory")))

/-- Reads fields, answering a malformed step when they are wrong. -/
def withArgs {α : Type} (s : ProgressSession) (r : Except String α)
    (k : α → ProgressSession × Value) : ProgressSession × Value :=
  match r with
  | .ok a => k a
  | .error m => (s, badInput m)

/-- Reads a consumer, answering an identifier failure when it is not one. -/
def withConsumer (s : ProgressSession) (f : Fields) (k : ConsumerId → ProgressSession × Value) :
    ProgressSession × Value :=
  s.withArgs (f.str "consumer") fun text =>
    match ConsumerId.ofText text with
    | .ok c => k c
    | .error e => (s, idFailure e)

/-- Runs one step. -/
def step (s : ProgressSession) (f : Fields) : ProgressSession × Value :=
  match f.str "do", f.flag "disk_full" with
  | .error m, _ | _, .error m => (s, badInput m)
  | .ok name, .ok limited =>
    match name with
    | "record" => s.withConsumer f fun c => s.withArgs (f.u64 "offset") fun o =>
      s.exec limited (ProgressStore.record c o) fun () => okay
    | "rewind" => s.withConsumer f fun c => s.withArgs (f.optU64 "offset") fun o =>
      s.exec limited (ProgressStore.rewind c o) fun () => okay
    | "load" => s.exec limited Within.current fun st => obj [("progress", progressView st.load)]
    | "get" => s.needs false name fun () => s.withConsumer f fun c =>
      s.exec limited Within.current fun st => obj [("progress", .natOpt (st.map.get? c))]
    | "reopen" => s.needs true name fun () =>
      match onDisk s.disk limited (ProgressStore.openDir scratch .osDefault) with
      | (.ok st, d) => ({ s with store := some st, disk := d }, okay)
      | (.error e, d) => ({ s with store := none, disk := d }, storeFailure e)
    | "crash" => s.needs true name fun () => ({ s with store := none }, okay)
    | "damage" => s.needs true name fun () => s.withArgs f.damage fun damage =>
      let (d, a) := damageDisk s.disk progressPath damage
      ({ s with disk := d, store := none }, a)
    | "file_len" => s.needs true name fun () => (s, fileLength s.disk progressPath)
    | other => (s, badInput ("unknown step " ++ other))

end ProgressSession

/-- The answer of a command over a progress store. -/
def progressAnswer (f : Fields) : Value :=
  match f.list "steps", f.str "backend" (some "memory") with
  | .error m, _ | _, .error m => badInput m
  | .ok steps, .ok name =>
    let run (s : ProgressSession) := stepsAnswer (runSteps ProgressSession.step s steps)
    match name with
    | "memory" => run ⟨Disk.fresh, false, some {}⟩
    | "wal" =>
      match onDisk Disk.fresh false (ProgressStore.openDir scratch .osDefault) with
      | (.ok st, d) => run ⟨d, true, some st⟩
      | (.error e, _) => openFailure (storeFailure e)
    | other => badInput ("unknown backend " ++ other)

/-- A session over an acknowledgment tracker. -/
structure AckSession where
  disk : Disk
  tracker : AckTracker

namespace AckSession

/-- Runs an operation on the tracker. -/
def exec {α : Type} (s : AckSession) (limited : Bool) (m : Within AckTracker StreamError α)
    (k : α → Value) : AckSession × Value :=
  match m.run' s.tracker { s.disk with limited := limited } with
  | (.ok a, t, d) => ({ tracker := t, disk := { d with limited := false } }, k a)
  | (.error e, t, d) =>
    ({ tracker := t, disk := { d with limited := false } }, streamFailure {} d e)

/-- Reads fields, answering a malformed step when they are wrong. -/
def withArgs {α : Type} (s : AckSession) (r : Except String α) (k : α → AckSession × Value) :
    AckSession × Value :=
  match r with
  | .ok a => k a
  | .error m => (s, badInput m)

/-- Reads a consumer, answering a stream failure when it is not one. -/
def withConsumer (s : AckSession) (f : Fields) (k : ConsumerId → AckSession × Value) :
    AckSession × Value :=
  s.withArgs (f.str "consumer") fun text =>
    match ConsumerId.ofText text with
    | .ok c => k c
    | .error e => (s, streamFailure {} s.disk (.invalidConsumer e))

/-- Rebuilds the tracker from its store; on failure the tracker stays, and the store keeps
the rewinds made. -/
def recover (s : AckSession) (limited : Bool) (n : Nat) : AckSession × Value :=
  match (AckTracker.recover n).run' s.tracker.store { s.disk with limited := limited } with
  | (.ok acked, store, d) => ({ tracker := ⟨store, acked⟩, disk := { d with limited := false } }, okay)
  | (.error e, store, d) =>
    ({ tracker := { s.tracker with store }, disk := { d with limited := false } },
      streamFailure {} d e)

/-- Runs one step. -/
def step (s : AckSession) (f : Fields) : AckSession × Value :=
  match f.str "do", f.flag "disk_full" with
  | .error m, _ | _, .error m => (s, badInput m)
  | .ok name, .ok limited =>
    match name with
    | "ack" => s.withConsumer f fun c =>
      s.withArgs (do pure (← f.u64 "offset", ← f.u64 "next_offset")) fun (o, n) =>
        s.exec limited (AckTracker.acknowledge c o n) fun p => obj [("progress", .nat p)]
    | "progress" => s.withConsumer f fun c => (s, obj [("progress", .natOpt (s.tracker.progress c))])
    | "resume_offset" => s.withConsumer f fun c =>
      (s, obj [("resume_offset", .nat (s.tracker.resumeOffset c))])
    | "all" => (s, obj [("all", progressView s.tracker.all)])
    | "tracked" => (s, obj [("tracked", .nat s.tracker.tracked)])
    | "store_load" => (s, obj [("progress", progressView s.tracker.store.load)])
    | "recover" => s.withArgs (f.u64 "next_offset") fun n => s.recover limited n
    | other => (s, badInput ("unknown step " ++ other))

end AckSession

/-- Records seeded progress into a store. -/
def seedProgress (entries : List (ConsumerId × Nat)) : Within ProgressStore StoreError Unit :=
  entries.forM fun (c, o) => ProgressStore.record c o

/-- The answer of a command over an acknowledgment tracker. -/
def acksAnswer (f : Fields) : Value :=
  match f.list "steps", f.str "store" (some "memory"), f.list "seed", f.u64 "budget" (some 0),
      f.optU64 "recover" with
  | .error m, _, _, _, _ | _, .error m, _, _, _ | _, _, .error m, _, _ | _, _, _, .error m, _
  | _, _, _, _, .error m => badInput m
  | .ok steps, .ok name, .ok seed, .ok budget, .ok recover =>
    match seed.mapM seedEntry with
    | .error m => badInput m
    | .ok entries =>
      let opened : Option (Except Value (ProgressStore × Disk)) :=
        match name with
        | "memory" | "failing" => some (.ok ({}, Disk.fresh))
        | "wal" =>
          match onDisk Disk.fresh false (ProgressStore.openDir scratch .osDefault) with
          | (.ok st, d) => some (.ok (st, d))
          | (.error e, _) => some (.error (storeFailure e))
        | _ => none
      match opened with
      | none => badInput ("unknown store " ++ name)
      | some (.error e) => openFailure e
      | some (.ok (store, d)) =>
        match (seedProgress entries).run' store d with
        | (.error e, _, _) => openFailure (storeFailure e)
        | (.ok (), store, d) =>
          let store := if name = "failing" then { store with writesLeft := some budget } else store
          let run (s : AckSession) := stepsAnswer (runSteps AckSession.step s steps)
          match recover with
          | none => run ⟨d, ⟨store, {}⟩⟩
          | some n =>
            match (AckTracker.recover n).run' store d with
            | (.ok acked, store', d') => run ⟨d', ⟨store', acked⟩⟩
            | (.error e, store', d') =>
              obj [("open", streamFailure {} d' e), ("store_load", progressView store'.load)]

end ChangeLog.Script
