import ChangeLog.Stream.Error
import ChangeLog.Progress.Store
/-
  Acknowledgments: how far each consumer has read. The tracker holds the acknowledged
  offset of each consumer and writes every raise to its progress store first, so a failed
  write leaves the progress as it was. An acknowledgment at or past the next offset is out
  of range; one that does not raise the progress is answered with the progress held, and
  writes nothing.

  Recovery reads a store's progress against the next offset of the log: progress at or past
  it is rewound, in the store too, to the last offset of the log, or forgotten when the log
  is empty. A rewind that fails ends recovery; the rewinds before it stay in the store.

  The tracker as it keeps its progress (`SlotTracker`) holds, for each consumer, a slot with
  the acknowledged offset plus one, so that a slot of zero holds nothing and a raise is a
  maximum taken in place. A consumer's slot is made, at zero, when it first acknowledges
  something in range, before its raise is written; a raise whose write fails leaves that
  slot at zero. `AckTracker` is what the slots stand for.

  Main statement: `acknowledge_stale`, a lower acknowledgment changes nothing.
-/

namespace ChangeLog

/-- The acknowledged progress of consumers, with the store that keeps it. -/
structure AckTracker where
  store : ProgressStore
  acked : ProgressMap := {}

namespace AckTracker

/-- Runs a store operation inside the tracker. -/
def onStore {α : Type} (m : Within ProgressStore StoreError α) : Within AckTracker StreamError α :=
  Within.focus (·.store) (fun t s => { t with store := s }) (Within.mapError StreamError.ofStore m)

/-- Reads progress entries against the next offset, rewinding those at or past it. -/
def recoverEntries (n : Nat) :
    List (ConsumerId × Nat) → ProgressMap → Within ProgressStore StreamError ProgressMap
  | [], acc => pure acc
  | (c, o) :: rest, acc =>
    if o < n then recoverEntries n rest (acc.insert c o)
    else do
      let last := if n = 0 then none else some (n - 1)
      Within.mapError StreamError.ofStore (ProgressStore.rewind c last)
      recoverEntries n rest (match last with | some l => acc.insert c l | none => acc)

/-- Rebuilds a tracker from a store, for a log whose next offset is given. -/
def recover (n : Nat) : Within ProgressStore StreamError ProgressMap := do
  let s ← Within.current
  recoverEntries n s.load {}

/-- The acknowledged offset of a consumer. -/
def progress (t : AckTracker) (c : ConsumerId) : Option Nat := t.acked.get? c

/-- Where a consumer resumes: after its acknowledged offset, or at the start. -/
def resumeOffset (t : AckTracker) (c : ConsumerId) : Nat :=
  match t.progress c with
  | some o => o + 1
  | none => 0

/-- All acknowledged progress, in the order of the consumers' names. -/
def all (t : AckTracker) : List (ConsumerId × Nat) := t.acked.toList

/-- The number of consumers with progress. -/
def tracked (t : AckTracker) : Nat := t.acked.size

/-- Acknowledges an offset of a log whose next offset is given; gives the progress. -/
def acknowledge (c : ConsumerId) (o n : Nat) : Within AckTracker StreamError Nat := do
  if n ≤ o then throw (.outOfRange o n)
  let t ← Within.current
  match t.progress c with
  | some cur =>
    if o ≤ cur then pure cur
    else
      onStore (ProgressStore.record c o)
      let t ← Within.current
      Within.replace { t with acked := t.acked.insert c o }
      pure o
  | none =>
    onStore (ProgressStore.record c o)
    let t ← Within.current
    Within.replace { t with acked := t.acked.insert c o }
    pure o

theorem acknowledge_stale (t : AckTracker) (d : Disk) (c : ConsumerId) (o n cur : Nat)
    (hn : o < n) (hc : t.progress c = some cur) (hle : o ≤ cur) :
    acknowledge c o n (t, d) = .ok cur (t, d) := by
  have : ¬ n ≤ o := by omega
  simp [acknowledge, this, hc, hle, Within.current, bind, EStateM.bind, pure, EStateM.pure]

end AckTracker

/-- The tracker as it keeps its progress: a slot for each consumer that has acknowledged
something in range, holding the acknowledged offset plus one, or zero for none. -/
structure SlotTracker where
  store : ProgressStore
  slots : ProgressMap := {}

namespace SlotTracker

/-- Runs a store operation inside the tracker. -/
def onStore {α : Type} (m : Within ProgressStore StoreError α) : Within SlotTracker StreamError α :=
  Within.focus (·.store) (fun t s => { t with store := s }) (Within.mapError StreamError.ofStore m)

/-- The slot of a consumer, made at zero when the consumer has none. -/
def slot (c : ConsumerId) : Within SlotTracker StreamError Nat := do
  let t ← Within.current
  match t.slots.get? c with
  | some v => pure v
  | none =>
    Within.replace { t with slots := t.slots.insert c 0 }
    pure 0

/-- Raises the slot of a consumer to a value unless it holds more; gives what it held. -/
def fetchMax (c : ConsumerId) (v : Nat) : Within SlotTracker StreamError Nat := do
  let t ← Within.current
  let previous := (t.slots.get? c).getD 0
  Within.replace { t with slots := t.slots.insert c (max previous v) }
  pure previous

/-- Reads progress entries against the next offset into slots, rewinding those at or past
it. -/
def recoverSlots (n : Nat) :
    List (ConsumerId × Nat) → ProgressMap → Within ProgressStore StreamError ProgressMap
  | [], acc => pure acc
  | (c, o) :: rest, acc => do
    let kept ← if o < n then pure (some o) else do
      let last := if n = 0 then none else some (n - 1)
      Within.mapError StreamError.ofStore (ProgressStore.rewind c last)
      pure last
    recoverSlots n rest (match kept with | some k => acc.insert c (k + 1) | none => acc)

/-- Rebuilds the slots from a store, for a log whose next offset is given. -/
def recover (n : Nat) : Within ProgressStore StreamError ProgressMap := do
  let s ← Within.current
  recoverSlots n s.load {}

/-- Acknowledges an offset of a log whose next offset is given; gives the progress. -/
def acknowledge (c : ConsumerId) (o n : Nat) : Within SlotTracker StreamError Nat := do
  if n ≤ o then throw (.outOfRange o n)
  let current ← slot c
  let target := o + 1
  if target ≤ current then pure (current - 1)
  else
    onStore (ProgressStore.record c o)
    let previous ← fetchMax c target
    pure (max previous target - 1)

/-- The offset a slot holds: none for zero, else the slot less one. -/
def held : Nat → Option Nat
  | 0 => none
  | v + 1 => some v

/-- The acknowledged offset of a consumer. -/
def progress (t : SlotTracker) (c : ConsumerId) : Option Nat := (t.slots.get? c).bind held

/-- Where a consumer resumes: after its acknowledged offset, or at the start. -/
def resumeOffset (t : SlotTracker) (c : ConsumerId) : Nat :=
  match t.progress c with
  | some o => o + 1
  | none => 0

/-- All acknowledged progress, in the order of the consumers' names. -/
def all (t : SlotTracker) : List (ConsumerId × Nat) :=
  t.slots.toList.filterMap fun e => (held e.2).map (e.1, ·)

/-- The number of consumers whose slot holds progress. -/
def tracked (t : SlotTracker) : Nat := (t.slots.toList.filter fun e => 0 < e.2).length

end SlotTracker
end ChangeLog
