import ChangeLog.Progress.Record
import ChangeLog.Store.Within
import ChangeLog.Journal.Basic
/-
  Progress stores. A store holds progress by consumer. A durable store writes each change
  to a journal before it takes it in, and writes an acknowledgment only when it raises
  the consumer's offset; on opening it reads the journal back and applies its records in
  order. A store may also be given a number of writes it takes before it turns read-only;
  every write after that fails and changes nothing.
-/

namespace ChangeLog

/-- The name of the progress journal in a data directory. -/
def progressFile : String := "progress.wal"

/-- A progress store. -/
structure ProgressStore where
  map : ProgressMap := {}
  journal : Option Journal := none
  /-- The writes the store still takes before it turns read-only; none for no limit. -/
  writesLeft : Option Nat := none

namespace ProgressStore

/-- The failure of a write to a store that has turned read-only. -/
def readOnly : StoreError := .io (.other "read-only")

/-- Uses up one write of a limited store. -/
def spend : Within ProgressStore StoreError Unit := do
  let s ← Within.current
  match s.writesLeft with
  | none => pure ()
  | some 0 => throw readOnly
  | some (n + 1) => Within.replace { s with writesLeft := some n }

/-- Writes a record to the journal of a durable store. -/
def log (r : ProgressRecord) : Within ProgressStore StoreError Unit := do
  let s ← Within.current
  match s.journal with
  | some j =>
    let (j', _) ← Within.disk (j.append r.encode)
    Within.replace { s with journal := some j' }
  | none => pure ()

/-- Changes the progress held, without writing. -/
def change (f : ProgressMap → ProgressMap) : Within ProgressStore StoreError Unit := do
  let s ← Within.current
  Within.replace { s with map := f s.map }

/-- Records that a consumer has seen an offset; the store keeps the maximum. -/
def record (c : ConsumerId) (o : Nat) : Within ProgressStore StoreError Unit := do
  let s ← Within.current
  let raises := match s.map.get? c with
    | some cur => decide (o > cur)
    | none => true
  if s.journal.isSome && !raises then pure ()
  else
    spend
    log (.ack c o)
    change (·.record c o)

/-- Sets a consumer's offset, or forgets the consumer. -/
def rewind (c : ConsumerId) (o : Option Nat) : Within ProgressStore StoreError Unit := do
  spend
  log (.rewind c o)
  change (·.rewind c o)

/-- All progress, in the order of the consumers' names. -/
def load (s : ProgressStore) : List (ConsumerId × Nat) := s.map.toList

/-- Opens the durable store of a data directory, applying its journal's records. -/
def openDir (dir : String) (mode : SyncMode) : StoreM ProgressStore := do
  let j ← Journal.openPath (Disk.join dir progressFile) mode
  let (j', payloads) ← j.recover
  let map := (payloads.filterMap ProgressRecord.decode).foldl ProgressRecord.apply {}
  pure { map, journal := some j' }

end ProgressStore
end ChangeLog
