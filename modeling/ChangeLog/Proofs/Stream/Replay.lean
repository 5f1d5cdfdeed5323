import Mathlib
import ChangeLog.Proofs.Stream.Delivery
import ChangeLog.Proofs.Store.Contract
/-
  Replaying a closed range of offsets. On an open stream a replay checks the range before it
  reads: a reversed range is refused first, then a range whose end the log does not hold, and
  otherwise the replay returns the events the log holds from the first offset through the
  last, one per offset and in order, each the event a read of its offset gives
  (`replay_of_open`, `get_slice`). Replaying from an offset is replaying to the last offset of
  the log, which an empty log does not have. A closed stream refuses both before it looks at
  the range.

  Calls only ever add events after the last one (`Call.log_after`), so what a range of the log
  holds is fixed once the log holds its end: a replay that succeeded gives the same events
  after any calls, as long as the stream is still open (`replay_after_calls`).

  Main statement: `replay_exact_and_stable`.
-/

namespace ChangeLog

section Slices

variable {α : Type}

/-- The slice of a list from one place through another holds, in order, one element for each
place up to the last. -/
theorem slice_getElem? (l : List α) (lo hi i : Nat) (h : i < hi + 1 - lo) :
    ((l.drop lo).take (hi + 1 - lo))[i]? = l[lo + i]? := by
  rw [List.getElem?_take, if_pos h, List.getElem?_drop]

theorem length_slice (lo : Nat) {l : List α} {hi : Nat} (h : hi < l.length) :
    ((l.drop lo).take (hi + 1 - lo)).length = hi + 1 - lo := by
  simp only [List.length_take, List.length_drop]
  omega

end Slices

namespace Replay

/-- On an open store a replay refuses a reversed range, then an end past the log, and otherwise
gives the slice of the log from the first offset through the last. -/
theorem range_of_open {st : EventStore} (hopen : st.log.closed = false) (lo hi : Nat) :
    range st lo hi =
      if hi < lo then .error (.invalidRange lo hi)
      else if st.nextOffset ≤ hi then .error (.outOfRange hi st.nextOffset)
      else .ok ((st.log.events.drop lo).take (hi + 1 - lo)) := by
  unfold range
  split
  · rfl
  · split
    · rfl
    · rename_i hin
      -- the range ends inside the log, so the cut at the next offset takes nothing off
      have hcut : min (hi + 1) st.log.nextOffset = hi + 1 := by
        simp only [EventStore.nextOffset] at hin
        omega
      simp only [EventStore.readRange, hopen, Bool.false_eq_true, if_false, Except.mapError,
        EventLog.range_eq, hcut]

end Replay

namespace ChangeStream

variable {s : ChangeStream} (d : Disk)

/-- An open stream reads an event the log holds as that event. -/
theorem get_of_open (hopen : s.isClosed = false) {o : Nat} {ev : ChangeEvent}
    (hev : s.events.log.events[o]? = some ev) : s.get o = .ok ev := by
  have hlog : s.events.log.closed = false := hopen
  simp only [get, EventStore.get?, hlog, Bool.false_eq_true, if_false, EventLog.get?, hev]

/-- The events of a replayed slice are the events a read of each offset gives, in order. -/
theorem get_slice (hopen : s.isClosed = false) {lo hi : Nat} (hhi : hi < s.nextOffset) (i : Nat)
    (h : i < ((s.events.log.events.drop lo).take (hi + 1 - lo)).length) :
    s.get (lo + i) = .ok ((s.events.log.events.drop lo).take (hi + 1 - lo))[i] := by
  have hlen := length_slice lo hhi
  refine get_of_open hopen ?_
  rw [← slice_getElem? _ lo hi i (hlen ▸ h), List.getElem?_eq_getElem h]

/-- A replay on an open stream changes nothing and answers what the replay of its store does. -/
theorem replay_of_open (hopen : s.isClosed = false) (lo hi : Nat) :
    replay lo hi (s, d) =
      if hi < lo then .error (.invalidRange lo hi) (s, d)
      else if s.nextOffset ≤ hi then .error (.outOfRange hi s.nextOffset) (s, d)
      else .ok ((s.events.log.events.drop lo).take (hi + 1 - lo)) (s, d) := by
  have hlog : s.events.log.closed = false := hopen
  rw [replay_run, if_neg (by simp [hopen]), Replay.range_of_open hlog]
  simp only [nextOffset]
  by_cases hr : hi < lo
  · simp only [hr, if_true]
  · by_cases hn : s.events.nextOffset ≤ hi <;> simp only [hr, hn, if_true, if_false]

/-- Replaying from an offset is replaying to the last offset of the log. -/
theorem replayFrom_eq_replay (lo : Nat) (hn : 0 < s.nextOffset) :
    replayFrom lo (s, d) = replay lo (s.nextOffset - 1) (s, d) := by
  have hne : s.events.nextOffset ≠ 0 := Nat.pos_iff_ne_zero.1 hn
  rw [replayFrom_run, replay_run]
  simp only [Replay.fromOffset, hne, if_false, nextOffset]

theorem replayFrom_empty (hopen : s.isClosed = false) (lo : Nat) (hn : s.nextOffset = 0) :
    replayFrom lo (s, d) = .error (.outOfRange lo 0) (s, d) := by
  have hn' : s.events.nextOffset = 0 := hn
  rw [replayFrom_run, if_neg (by simp [hopen])]
  simp only [Replay.fromOffset, hn', if_true]

end ChangeStream

namespace Call

/-- The stream that calls leave, each made on the disk the environment gives it. -/
def afterAll (s : ChangeStream) : List (Call × Disk) → ChangeStream
  | [] => s
  | (call, d) :: rest => afterAll (call.after s d) rest

/-- No run of calls takes an event out of the log, or changes one: the log after the calls
extends the log before them. -/
theorem log_afterAll (calls : List (Call × Disk)) :
    ∀ s : ChangeStream, ∃ new, (afterAll s calls).events.log.events = s.events.log.events ++ new := by
  induction calls with
  | nil => intro s; exact ⟨[], (List.append_nil _).symm⟩
  | cons cd rest ih =>
    intro s
    obtain ⟨call, d⟩ := cd
    obtain ⟨new₁, h₁⟩ := log_after s d call
    obtain ⟨new₂, h₂⟩ := ih (call.after s d)
    exact ⟨new₁ ++ new₂, by rw [afterAll, h₂, h₁, List.append_assoc]⟩

end Call

/-- A replay that succeeded gives the same events again after any calls, while the stream is
open: the range ended inside the log, and the log only grows after its end. -/
theorem replay_after_calls {s : ChangeStream} {d : Disk} {lo hi : Nat} {es : List ChangeEvent}
    {x : ChangeStream × Disk} (h : ChangeStream.replay lo hi (s, d) = .ok es x)
    (calls : List (Call × Disk)) (hopen : (Call.afterAll s calls).isClosed = false) (d' : Disk) :
    ChangeStream.replay lo hi (Call.afterAll s calls, d') = .ok es (Call.afterAll s calls, d') := by
  -- the first replay was made on an open stream, over a range the log held
  have hopen₀ : s.isClosed = false := by
    cases hc : s.isClosed
    · rfl
    · rw [ChangeStream.replay_run, if_pos hc] at h
      cases h
  rw [ChangeStream.replay_of_open d hopen₀] at h
  split at h
  · cases h
  rename_i hrange
  split at h
  · cases h
  rename_i hin
  cases h
  obtain ⟨new, hlog⟩ := Call.log_afterAll calls s
  have hgrow : (Call.afterAll s calls).nextOffset = s.nextOffset + new.length := by
    simp only [ChangeStream.nextOffset, EventStore.nextOffset, EventLog.nextOffset, hlog,
      List.length_append]
  have hend : hi + 1 ≤ s.events.log.events.length := by
    simp only [ChangeStream.nextOffset, EventStore.nextOffset, EventLog.nextOffset] at hin
    omega
  rw [ChangeStream.replay_of_open d' hopen, if_neg hrange, if_neg (by omega), hlog]
  -- the slice ends inside the old log, so the events added after it are not read
  have hslice := slice_append_of_le s.events.log.events new (f := lo) hend
  rw [hslice]

/-- What a replay of a closed range of offsets answers. On an open stream it changes nothing,
refuses a reversed range, then a range whose end the log does not hold, and otherwise gives one
event for each offset of the range, in order: the event a read of that offset gives, which in a
log whose events carry their places is the event with that offset; the end of the range is
then below the next offset, so one past it is at most the next offset. Replaying from an offset
is replaying to the last offset of the log, and on an open stream with an empty log it is out of
range. A closed stream refuses both. A replay that succeeded gives the same events after any
calls, made on any disks, while the stream is still open. -/
theorem replay_exact_and_stable :
    (∀ (s : ChangeStream) (d : Disk) (lo hi : Nat), s.isClosed = false →
      stateOf (ChangeStream.replay lo hi (s, d)) = (s, d) ∧
      (outcome (ChangeStream.replay lo hi (s, d)) = .error (.invalidRange lo hi) ↔ hi < lo) ∧
      (lo ≤ hi → (outcome (ChangeStream.replay lo hi (s, d)) = .error (.outOfRange hi s.nextOffset) ↔
        s.nextOffset ≤ hi)) ∧
      (lo ≤ hi → hi < s.nextOffset → ∃ es, outcome (ChangeStream.replay lo hi (s, d)) = .ok es ∧
        hi + 1 ≤ s.nextOffset ∧ es.length = hi - lo + 1 ∧
        (∀ (i : Nat) (h : i < es.length), s.get (lo + i) = .ok es[i]) ∧
        (s.events.log.Placed → es.map (·.offset) = List.range' lo (hi - lo + 1)))) ∧
    (∀ (s : ChangeStream) (d : Disk) (lo : Nat),
      (0 < s.nextOffset →
        ChangeStream.replayFrom lo (s, d) = ChangeStream.replay lo (s.nextOffset - 1) (s, d)) ∧
      (s.isClosed = false → s.nextOffset = 0 →
        ChangeStream.replayFrom lo (s, d) = .error (.outOfRange lo 0) (s, d))) ∧
    (∀ (s : ChangeStream) (d : Disk) (lo hi : Nat), s.isClosed = true →
      ChangeStream.replay lo hi (s, d) = .error .closed (s, d) ∧
      ChangeStream.replayFrom lo (s, d) = .error .closed (s, d)) ∧
    (∀ (s : ChangeStream) (d : Disk) (lo hi : Nat) (es : List ChangeEvent) (x : ChangeStream × Disk),
      ChangeStream.replay lo hi (s, d) = .ok es x → ∀ calls : List (Call × Disk),
        (Call.afterAll s calls).isClosed = false → ∀ d' : Disk,
        ChangeStream.replay lo hi (Call.afterAll s calls, d') = .ok es (Call.afterAll s calls, d')) := by
  refine ⟨?_, ?_, ?_, fun s d lo hi es x h calls hopen d' => replay_after_calls h calls hopen d'⟩
  · intro s d lo hi hopen
    rw [ChangeStream.replay_of_open d hopen]
    refine ⟨?_, ?_, fun hle => ?_, fun hle hin => ?_⟩
    · split
      · rfl
      · split <;> rfl
    · split
      · exact ⟨fun _ => ‹_›, fun _ => rfl⟩
      · rename_i hrange
        refine ⟨fun h => ?_, fun h => absurd h hrange⟩
        split at h <;> cases h
    · rw [if_neg (Nat.not_lt.2 hle)]
      split
      · exact ⟨fun _ => ‹_›, fun _ => rfl⟩
      · rename_i hin
        exact ⟨fun h => (by cases h), fun h => absurd h hin⟩
    · have hlen : hi < s.events.log.events.length := hin
      rw [if_neg (Nat.not_lt.2 hle), if_neg (Nat.not_le.2 hin)]
      refine ⟨_, rfl, hin, ?_, ChangeStream.get_slice hopen hin, fun hp => ?_⟩
      · rw [length_slice lo hlen]
        omega
      · rw [show hi - lo + 1 = hi + 1 - lo by omega]
        exact hp.map_offset (by simp only [EventLog.nextOffset]; omega)
  · intro s d lo
    exact ⟨ChangeStream.replayFrom_eq_replay d lo, fun hopen => ChangeStream.replayFrom_empty d hopen lo⟩
  · intro s d lo hi hs
    rw [ChangeStream.replay_run, ChangeStream.replayFrom_run, if_pos hs, if_pos hs]
    exact ⟨rfl, rfl⟩

/-- A stream in memory holding one event: the replay of its offset gives the event, replaying
from the start is replaying to it, and after another append the replay gives it again. -/
theorem replay_of_one_event :
    let e := NewEvent.stamp ⟨"create", [], [], ""⟩ 0 Instant.epoch
    let s : ChangeStream := { ChangeStream.inMemory {} with events := ⟨⟨[e], false⟩, none⟩ }
    let calls : List (Call × Disk) := [(.append ⟨"update", [], [], ""⟩ Instant.epoch, {})]
    (s.isClosed = false ∧ 0 < s.nextOffset ∧ (Call.afterAll s calls).isClosed = false) ∧
    (∃ es, outcome (ChangeStream.replay 0 0 (s, {})) = .ok es ∧ 0 + 1 ≤ s.nextOffset ∧
      es.length = 0 - 0 + 1 ∧ (∀ (i : Nat) (h : i < es.length), s.get (0 + i) = .ok es[i]) ∧
      (s.events.log.Placed → es.map (·.offset) = List.range' 0 (0 - 0 + 1))) ∧
    ChangeStream.replayFrom 0 (s, {}) = ChangeStream.replay 0 (s.nextOffset - 1) (s, {}) ∧
    ChangeStream.replay 0 0 (Call.afterAll s calls, {}) = .ok [e] (Call.afterAll s calls, {}) := by
  intro e s calls
  have hopen : s.isClosed = false := rfl
  have hn : 0 < s.nextOffset := by decide
  have hlater : (Call.afterAll s calls).isClosed = false := by decide
  have hfirst : ChangeStream.replay 0 0 (s, {}) = .ok [e] (s, {}) := rfl
  refine ⟨⟨hopen, hn, hlater⟩, (replay_exact_and_stable.1 s {} 0 0 hopen).2.2.2 le_rfl hn,
    (replay_exact_and_stable.2.1 s {} 0).1 hn, ?_⟩
  exact replay_exact_and_stable.2.2.2 s {} 0 0 [e] (s, {}) hfirst calls hlater {}

/-- A stream that took one event and was then closed refuses to replay it: the range is in
order and ends inside the log, and the replay still answers that the stream is closed. -/
theorem replay_refused_once_closed :
    let s : ChangeStream := { ChangeStream.inMemory {} with
      events := ⟨⟨[NewEvent.stamp ⟨"create", [], [], ""⟩ 0 Instant.epoch], true⟩, none⟩ }
    s.nextOffset = 1 ∧ ChangeStream.replay 0 0 (s, {}) = .error .closed (s, {}) := by
  intro s
  have hclosed : s.isClosed = true := rfl
  refine ⟨rfl, ?_⟩
  rw [ChangeStream.replay_run, if_pos hclosed]

end ChangeLog
