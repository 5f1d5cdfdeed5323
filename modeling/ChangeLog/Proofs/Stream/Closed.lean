import Mathlib
import ChangeLog.Proofs.Store.Contract
/-
  A closed stream is frozen. Closing a stream closes its store, even when a durable store
  then fails to force its journal out, and nothing opens a store again. On a closed stream
  every call refuses before it reads or writes anything: the facade's operations check the
  flag first, and a read of one event asks the store, whose refusal is the stream's `closed`.
  Two calls answer otherwise: an append whose type is blank is refused for its type, which is
  checked before the flag, and closing again answers done (`Call.onClosed`).

  So one call on a closed stream answers what `Call.onClosed` says and leaves the stream and
  the disk exactly as they were (`perform_of_closed`), and a run of calls answers call by
  call the same way and ends where it started (`runAll_of_closed`).

  Main statement: `closed_stream_frozen`.
-/

namespace ChangeLog

namespace Call

/-- What a call answers on a closed stream: closing again is done, an append with a blank type
is refused for its type, and every other call is refused because the stream is closed. -/
def onClosed : Call → Except StreamError Answer
  | append e _ =>
    if Unicode.isBlank e.eventType then .error (.invalidEventType "event type must not be empty")
    else .error .closed
  | close => .ok .done
  | _ => .error .closed

end Call

namespace ChangeStream

/-- Closing closes the stream, whether or not the journal could be forced out. -/
theorem isClosed_close (s : ChangeStream) (d : Disk) :
    (stateOf (close (s, d))).1.isClosed = true := by
  rw [close_run, EventStore.close_run]
  by_cases hclosed : s.events.log.closed = true
  · simp only [hclosed, if_true, stateOf_ok]
    exact hclosed
  · simp only [hclosed, Bool.false_eq_true, if_false]
    cases s.events.journal with
    | none => rfl
    | some j =>
      dsimp only
      rcases j.sync d with ⟨⟨⟩, d'⟩ | ⟨err, d'⟩ <;> rfl

variable {s : ChangeStream} (d : Disk)

/-- A closed stream closes again without touching the store or the disk. -/
theorem close_of_closed (hs : s.isClosed = true) : close (s, d) = .ok () (s, d) := by
  have hlog : s.events.log.closed = true := hs
  rw [close_run, EventStore.close_run, if_pos hlog]

/-- A closed store refuses a read of one event, and the stream reports it as closed. -/
theorem get_of_closed (hs : s.isClosed = true) (o : Nat) : s.get o = .error .closed := by
  have hlog : s.events.log.closed = true := hs
  simp only [get, EventStore.get?, hlog, if_true, StreamError.ofStore_closed]

end ChangeStream

namespace Call

variable {s : ChangeStream} (d : Disk)

/-- A call that answers what its operation answers, refused before the operation changes
anything: the refusal is the call's, and the stream and disk stay. -/
theorem refused {α : Type} {op : Within ChangeStream StreamError α} {f : α → Answer} {e : StreamError}
    (h : op (s, d) = .error e (s, d)) :
    outcome ((op >>= fun a => pure (f a)) (s, d)) = .error e ∧
      stateOf ((op >>= fun a => pure (f a)) (s, d)) = (s, d) := by
  rw [outcome_bind_pure, stateOf_bind_pure, h]
  exact ⟨rfl, rfl⟩

/-- One call on a closed stream answers what `onClosed` says, and leaves the stream and the disk
as they were. -/
theorem perform_of_closed (hs : s.isClosed = true) (call : Call) :
    outcome (call.perform (s, d)) = call.onClosed ∧ stateOf (call.perform (s, d)) = (s, d) := by
  have hlog : s.events.log.closed = true := hs
  cases call with
  | append e now =>
    -- the type is checked first; a type that is not blank meets the closed store
    by_cases hblank : Unicode.isBlank e.eventType = true
    · simp only [onClosed, hblank, if_true]
      refine refused d ?_
      rw [ChangeStream.append_run, if_pos hblank]
    · simp only [onClosed, hblank, Bool.false_eq_true, if_false]
      refine refused d ?_
      rw [ChangeStream.append_run, if_neg hblank, EventStore.append_run, if_pos hlog]
      rfl
  | get o =>
    simp only [perform, bind, EStateM.bind, Within.current_apply, ChangeStream.get_of_closed hs,
      ChangeStream.lift_error]
    exact ⟨rfl, rfl⟩
  | subscribe id f owner => exact refused d (by rw [ChangeStream.subscribe_run, if_pos hs])
  | readBatch id max => exact refused d (by rw [ChangeStream.readBatch_run, if_pos hs])
  | unsubscribe id => exact refused d (by rw [ChangeStream.unsubscribe_run, if_pos hs])
  | cursorInfo id => exact refused d (by rw [ChangeStream.cursorInfo_run, if_pos hs])
  | acknowledge c o => exact refused d (by rw [ChangeStream.acknowledge_run, if_pos hs])
  | progress c => exact refused d (by rw [ChangeStream.progress_run, if_pos hs])
  | resumeOffset c => exact refused d (by rw [ChangeStream.resumeOffset_run, if_pos hs])
  | consumers => exact refused d (by rw [ChangeStream.consumers_run, if_pos hs])
  | replay lo hi => exact refused d (by rw [ChangeStream.replay_run, if_pos hs])
  | replayFrom lo => exact refused d (by rw [ChangeStream.replayFrom_run, if_pos hs])
  | close =>
    simp only [perform, bind, EStateM.bind, ChangeStream.close_of_closed d hs]
    exact ⟨rfl, rfl⟩

/-- A run of calls on a closed stream answers each call as `onClosed` says and ends on the
stream and the disk it started from. -/
theorem runAll_of_closed (hs : s.isClosed = true) (calls : List Call) :
    runAll calls (s, d) = (calls.map onClosed, (s, d)) := by
  induction calls with
  | nil => rfl
  | cons call rest ih =>
    obtain ⟨hout, hstate⟩ := perform_of_closed d hs call
    simp only [runAll, hstate, ih, hout, List.map_cons]

end Call

/-- Once a close has answered, the stream is closed and says so in its state. From then on
every call, made on any disk, answers as `Call.onClosed` says: refused as closed, but an append
with a blank type refused for its type and a second close answered done. No call changes the
stream (its next offset, events, cursors and progress) or the disk, and a run of calls ends
where it started. -/
theorem closed_stream_frozen (s : ChangeStream) (d : Disk) (s' : ChangeStream) (d' : Disk)
    (h : ChangeStream.close (s, d) = .ok () (s', d')) :
    s'.isClosed = true ∧ s'.stats.closed = true ∧
    (∀ e : Disk, ChangeStream.close (s', e) = .ok () (s', e)) ∧
    (∀ (call : Call) (e : Disk),
      outcome (call.perform (s', e)) = call.onClosed ∧ stateOf (call.perform (s', e)) = (s', e)) ∧
    ∀ (calls : List Call) (e : Disk), Call.runAll calls (s', e) = (calls.map Call.onClosed, (s', e)) := by
  have hs : s'.isClosed = true := by
    simpa only [h, stateOf_ok] using ChangeStream.isClosed_close s d
  exact ⟨hs, hs, fun e => ChangeStream.close_of_closed e hs,
    fun call e => Call.perform_of_closed e hs call, fun calls e => Call.runAll_of_closed e hs calls⟩

/-- An empty stream in memory, closed: every call after it is frozen out. -/
theorem closed_stream_frozen_in_memory :
    let s' : ChangeStream := { ChangeStream.inMemory {} with events := ⟨⟨[], true⟩, none⟩ }
    ChangeStream.close (ChangeStream.inMemory {}, {}) = .ok () (s', {}) ∧
    s'.isClosed = true ∧ s'.stats.closed = true ∧
    (∀ e : Disk, ChangeStream.close (s', e) = .ok () (s', e)) ∧
    (∀ (call : Call) (e : Disk),
      outcome (call.perform (s', e)) = call.onClosed ∧ stateOf (call.perform (s', e)) = (s', e)) ∧
    ∀ (calls : List Call) (e : Disk), Call.runAll calls (s', e) = (calls.map Call.onClosed, (s', e)) := by
  intro s'
  have h : ChangeStream.close (ChangeStream.inMemory {}, {}) = .ok () (s', {}) := rfl
  exact ⟨h, closed_stream_frozen _ _ _ _ h⟩

end ChangeLog
