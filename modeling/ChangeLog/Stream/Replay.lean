import ChangeLog.Stream.Error
import ChangeLog.Store.Events
/-
  Replay: the events of a closed range of offsets, both ends included. The range must not
  be reversed, which is checked first, and its end must be an offset the log holds.
  Replaying from an offset reads up to the last event of the log, and an empty log has
  none to read up to.
-/

namespace ChangeLog.Replay

/-- The events from one offset to another, both included. -/
def range (store : EventStore) (lo hi : Nat) : Except StreamError (List ChangeEvent) :=
  if hi < lo then .error (.invalidRange lo hi)
  else if store.nextOffset ≤ hi then .error (.outOfRange hi store.nextOffset)
  else (store.readRange lo (hi + 1)).mapError StreamError.ofStore

/-- The events from an offset to the last one of the log. -/
def fromOffset (store : EventStore) (lo : Nat) : Except StreamError (List ChangeEvent) :=
  if store.nextOffset = 0 then .error (.outOfRange lo 0)
  else range store lo (store.nextOffset - 1)

theorem range_reversed (store : EventStore) (lo hi : Nat) (h : hi < lo) :
    range store lo hi = .error (.invalidRange lo hi) := by
  simp [range, h]

end ChangeLog.Replay
