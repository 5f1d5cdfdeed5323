import ChangeLog.Stream.Cursor
import ChangeLog.Stream.Acks
import ChangeLog.Stream.Replay
import ChangeLog.Unicode.WhiteSpace
/-
  The change stream: an event store, the cursors that read it, and the tracker of
  acknowledged progress, behind one set of operations. An event needs a type that is not
  blank, which is checked before anything else. Once the store is closed the stream is
  closed: every operation but asking the next offset, the state and the configuration, and
  closing again, is refused; a read of a single event asks the store, which refuses it in
  the same way. Reads return at most the configured batch of events.

  A stream over durable stores opens by reading both journals back and recovering the
  tracker against the recovered log.
-/

namespace ChangeLog

/-- The settings of a stream. -/
structure StreamConfig where
  /-- The most events a read returns. -/
  maxReadBatch : Nat := 100

/-- A snapshot of a stream's state. -/
structure StreamStats where
  nextOffset : Nat
  openCursors : Nat
  trackedConsumers : Nat
  closed : Bool

/-- A change stream. -/
structure ChangeStream where
  events : EventStore
  acks : AckTracker
  cursors : CursorRegistry := {}
  config : StreamConfig := {}

namespace ChangeStream

/-- A stream over empty stores in memory. -/
def inMemory (config : StreamConfig) : ChangeStream := ⟨{}, ⟨{}, {}⟩, {}, config⟩

/-- Opens a stream over stores, recovering progress against the log. -/
def openWith (events : EventStore) (progress : ProgressStore) (config : StreamConfig) :
    OnDisk StreamError ChangeStream := fun d =>
  match (AckTracker.recover events.nextOffset).run' progress d with
  | (.ok acked, progress', d') => .ok ⟨events, ⟨progress', acked⟩, {}, config⟩ d'
  | (.error e, _, d') => .error e d'

/-- Opens a stream over the durable stores of a data directory. -/
def openDir (dir : String) (mode : SyncMode) (config : StreamConfig) :
    OnDisk StreamError ChangeStream := do
  let events ← EStateM.adaptExcept StreamError.ofStore (EventStore.openDir dir mode)
  let progress ← EStateM.adaptExcept StreamError.ofStore (ProgressStore.openDir dir mode)
  openWith events progress config

/-- The offset the next event gets. -/
def nextOffset (s : ChangeStream) : Nat := s.events.nextOffset

/-- Whether the stream is closed. -/
def isClosed (s : ChangeStream) : Bool := s.events.isClosed

/-- The state of the stream. -/
def stats (s : ChangeStream) : StreamStats :=
  ⟨s.nextOffset, s.cursors.size, s.acks.tracked, s.isClosed⟩

/-- Fails when the stream is closed. -/
def ensureOpen : Within ChangeStream StreamError Unit := do
  if (← Within.current).isClosed then throw .closed

/-- Runs an operation of the event store inside the stream. -/
def onEvents {α : Type} (m : Within EventStore StoreError α) : Within ChangeStream StreamError α :=
  Within.focus (·.events) (fun s e => { s with events := e }) (Within.mapError StreamError.ofStore m)

/-- Runs an operation of the tracker inside the stream. -/
def onAcks {α : Type} (m : Within AckTracker StreamError α) : Within ChangeStream StreamError α :=
  Within.focus (·.acks) (fun s a => { s with acks := a }) m

/-- Takes the result of a pure step, or fails with its error. -/
def lift {α : Type} (r : Except StreamError α) : Within ChangeStream StreamError α :=
  match r with
  | .ok a => pure a
  | .error e => throw e

/-- Appends an event whose type is not blank, stamped with a time. -/
def append (e : NewEvent) (now : Instant) : Within ChangeStream StreamError ChangeEvent := do
  if Unicode.isBlank e.eventType then throw (.invalidEventType "event type must not be empty")
  ensureOpen
  onEvents (EventStore.append e now)

/-- The event at an offset. -/
def get (s : ChangeStream) (offset : Nat) : Except StreamError ChangeEvent :=
  match s.events.get? offset with
  | .error e => .error (.ofStore e)
  | .ok none => .error (.eventNotFound offset)
  | .ok (some ev) => .ok ev

/-- Opens a cursor with a given id at an offset. -/
def subscribe (id : CursorId) (fromOffset : Nat) (owner : Option String) :
    Within ChangeStream StreamError Unit := do
  ensureOpen
  let s ← Within.current
  let r ← lift (s.cursors.subscribe s.events id fromOffset owner)
  Within.replace { s with cursors := r }

/-- Reads at most a count, and at most the configured batch, of events from a cursor. -/
def readBatch (id : CursorId) (max : Nat) : Within ChangeStream StreamError (List ChangeEvent × Nat) := do
  ensureOpen
  let s ← Within.current
  let (r, events, pos) ← lift (s.cursors.readBatch s.events id (min max s.config.maxReadBatch))
  Within.replace { s with cursors := r }
  pure (events, pos)

/-- Closes a cursor. -/
def unsubscribe (id : CursorId) : Within ChangeStream StreamError Unit := do
  ensureOpen
  let s ← Within.current
  let r ← lift (s.cursors.unsubscribe id)
  Within.replace { s with cursors := r }

/-- The state of a cursor. -/
def cursorInfo (id : CursorId) : Within ChangeStream StreamError Cursor := do
  ensureOpen
  lift ((← Within.current).cursors.info id)

/-- Acknowledges that a consumer has read through an offset; gives its progress. -/
def acknowledge (c : ConsumerId) (o : Nat) : Within ChangeStream StreamError Nat := do
  ensureOpen
  let n := (← Within.current).nextOffset
  onAcks (AckTracker.acknowledge c o n)

/-- The acknowledged offset of a consumer. -/
def progress (c : ConsumerId) : Within ChangeStream StreamError (Option Nat) := do
  ensureOpen
  pure ((← Within.current).acks.progress c)

/-- Where a consumer resumes. -/
def resumeOffset (c : ConsumerId) : Within ChangeStream StreamError Nat := do
  ensureOpen
  pure ((← Within.current).acks.resumeOffset c)

/-- All acknowledged progress. -/
def consumers : Within ChangeStream StreamError (List (ConsumerId × Nat)) := do
  ensureOpen
  pure ((← Within.current).acks.all)

/-- The events of a closed range of offsets. -/
def replay (lo hi : Nat) : Within ChangeStream StreamError (List ChangeEvent) := do
  ensureOpen
  lift (Replay.range (← Within.current).events lo hi)

/-- The events from an offset to the end of the log. -/
def replayFrom (lo : Nat) : Within ChangeStream StreamError (List ChangeEvent) := do
  ensureOpen
  lift (Replay.fromOffset (← Within.current).events lo)

/-- Closes the stream by closing its store. -/
def close : Within ChangeStream StreamError Unit := onEvents EventStore.close

end ChangeStream
end ChangeLog
