import ChangeLog.Store.Within
import ChangeLog.Journal.Basic
import ChangeLog.Event.Basic
/-
  Event stores. A store holds its events in offset order, the event at place i carrying
  offset i, and a flag that closes it. The next offset is the number of events. A durable
  store also writes each event to a journal before it takes it in, and on opening it reads
  the journal back and refuses one whose events do not carry the offsets of their places.

  A closed store refuses appends and reads; its next offset and its flag can still be
  asked. Closing twice is closing once, and a durable store forces its journal out when
  it closes.
-/

namespace ChangeLog

/-- The events of a store, in offset order, and whether it is closed. -/
structure EventLog where
  events : List ChangeEvent := []
  closed : Bool := false

namespace EventLog

/-- The offset the next event gets: the number of events. -/
def nextOffset (l : EventLog) : Nat := l.events.length

/-- Takes in an event at the end. -/
def publish (l : EventLog) (e : ChangeEvent) : EventLog := { l with events := l.events ++ [e] }

/-- The event at an offset, none at or past the next offset. -/
def get? (l : EventLog) (offset : Nat) : Option ChangeEvent := l.events[offset]?

/-- The events from one offset up to, not including, another, cut at the next offset. -/
def range (l : EventLog) (lo hi : Nat) : List ChangeEvent :=
  let stop := min hi l.nextOffset
  if stop ≤ lo then [] else (l.events.drop lo).take (stop - lo)

@[simp] theorem nextOffset_publish (l : EventLog) (e : ChangeEvent) :
    (l.publish e).nextOffset = l.nextOffset + 1 := by
  simp [publish, nextOffset]

theorem get?_publish_self (l : EventLog) (e : ChangeEvent) :
    (l.publish e).get? l.nextOffset = some e := by
  simp [publish, get?, nextOffset]

end EventLog

/-- The name of the events journal in a data directory. -/
def eventsFile : String := "events.wal"

/-- The first place whose event carries another offset, and that offset. -/
def offsetGap? : Nat → List ChangeEvent → Option (Nat × Nat)
  | _, [] => none
  | i, e :: rest => if e.offset = i then offsetGap? (i + 1) rest else some (i, e.offset)

/-- An event store: the events, and the journal of a durable store. -/
structure EventStore where
  log : EventLog := {}
  journal : Option Journal := none

namespace EventStore

/-- The offset the next event gets. -/
def nextOffset (s : EventStore) : Nat := s.log.nextOffset

/-- Whether the store is closed. -/
def isClosed (s : EventStore) : Bool := s.log.closed

/-- Fails when the store is closed. -/
def ensureOpen : Within EventStore StoreError Unit := do
  let s ← Within.current
  if s.log.closed then throw .closed

/-- Appends an event at the next offset, stamped with a time. -/
def append (e : NewEvent) (now : Instant) : Within EventStore StoreError ChangeEvent := do
  ensureOpen
  let s ← Within.current
  let stamped := e.stamp s.nextOffset now
  match s.journal with
  | some j =>
    let (j', _) ← Within.disk (j.append stamped.encode)
    Within.replace { s with journal := some j', log := s.log.publish stamped }
  | none => Within.replace { s with log := s.log.publish stamped }
  pure stamped

/-- The event at an offset. -/
def get? (s : EventStore) (offset : Nat) : Except StoreError (Option ChangeEvent) :=
  if s.log.closed then .error .closed else .ok (s.log.get? offset)

/-- The events of a half-open range of offsets. -/
def readRange (s : EventStore) (lo hi : Nat) : Except StoreError (List ChangeEvent) :=
  if s.log.closed then .error .closed else .ok (s.log.range lo hi)

/-- Closes the store; a durable store then forces its journal out. -/
def close : Within EventStore StoreError Unit := do
  let s ← Within.current
  if s.log.closed then pure ()
  else
    Within.replace { s with log := { s.log with closed := true } }
    match s.journal with
    | some j => Within.disk j.sync
    | none => pure ()

/-- Opens the durable store of a data directory, reading its journal back. -/
def openDir (dir : String) (mode : SyncMode) : StoreM EventStore := do
  let path := Disk.join dir eventsFile
  let j ← Journal.openPath path mode
  let (j', payloads) ← j.recover
  let events := payloads.filterMap ChangeEvent.decode
  match offsetGap? 0 events with
  | some (i, found) => throw (.offsetGap path i found)
  | none => pure { log := { events }, journal := some j' }

end EventStore
end ChangeLog
