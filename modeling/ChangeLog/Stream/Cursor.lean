import ChangeLog.Stream.Error
import ChangeLog.Store.Events
/-
  Cursors: named positions in the event sequence. A cursor starts at an offset no later
  than the next one and moves forward by the number of events each read returns; a read
  asks the store for the events from the position up to a count. The registry holds the
  open cursors by id; new ids are given by the caller, so that they can be chosen in
  advance.

  Main statement: `position_readBatch` says that a read moves its cursor by exactly the
  number of events it returns.
-/

namespace ChangeLog

/-- An open cursor. -/
structure Cursor where
  owner : Option String
  fromOffset : Nat
  position : Nat
  deriving DecidableEq, Repr

/-- The open cursors by id, oldest first. -/
structure CursorRegistry where
  cursors : List (CursorId × Cursor) := []

namespace CursorRegistry

/-- The cursor with an id. -/
def find? (r : CursorRegistry) (id : CursorId) : Option Cursor :=
  (r.cursors.find? (·.1 = id)).map (·.2)

/-- Sets the cursor with an id, keeping its place among the others. -/
def put (r : CursorRegistry) (id : CursorId) (c : Cursor) : CursorRegistry :=
  if r.cursors.any (·.1 = id) then ⟨r.cursors.map fun e => if e.1 = id then (id, c) else e⟩
  else ⟨r.cursors ++ [(id, c)]⟩

/-- The number of open cursors. -/
def size (r : CursorRegistry) : Nat := r.cursors.length

/-- Opens a cursor at an offset no later than the store's next offset. -/
def subscribe (r : CursorRegistry) (store : EventStore) (id : CursorId) (fromOffset : Nat)
    (owner : Option String) : Except StreamError CursorRegistry :=
  if fromOffset > store.nextOffset then .error (.outOfRange fromOffset store.nextOffset)
  else .ok (r.put id ⟨owner, fromOffset, fromOffset⟩)

/-- Reads up to a count of events from a cursor's position and moves it past them;
gives the events and the new position. -/
def readBatch (r : CursorRegistry) (store : EventStore) (id : CursorId) (max : Nat) :
    Except StreamError (CursorRegistry × List ChangeEvent × Nat) :=
  match r.find? id with
  | none => .error (.cursorNotFound id)
  | some c =>
    match store.readRange c.position (c.position + max) with
    | .error e => .error (.ofStore e)
    | .ok events =>
      let c' := { c with position := c.position + events.length }
      .ok (r.put id c', events, c'.position)

/-- Closes a cursor. -/
def unsubscribe (r : CursorRegistry) (id : CursorId) : Except StreamError CursorRegistry :=
  if r.cursors.any (·.1 = id) then .ok ⟨r.cursors.filter (·.1 != id)⟩
  else .error (.cursorNotFound id)

/-- The state of a cursor. -/
def info (r : CursorRegistry) (id : CursorId) : Except StreamError Cursor :=
  match r.find? id with
  | some c => .ok c
  | none => .error (.cursorNotFound id)

theorem position_readBatch {r r' : CursorRegistry} {store : EventStore} {id : CursorId}
    {max : Nat} {events : List ChangeEvent} {pos : Nat} {c : Cursor} (hc : r.find? id = some c)
    (h : r.readBatch store id max = .ok (r', events, pos)) :
    pos = c.position + events.length := by
  cases hr : store.readRange c.position (c.position + max) with
  | error e => simp [readBatch, hc, hr] at h
  | ok evs =>
    simp only [readBatch, hc, hr, Except.ok.injEq, Prod.mk.injEq] at h
    obtain ⟨-, rfl, rfl⟩ := h
    rfl

end CursorRegistry
end ChangeLog
