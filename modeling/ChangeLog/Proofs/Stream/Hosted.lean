import Mathlib
import ChangeLog.Proofs.Store.Contract
/-
  A data directory across processes. Each process opens the stream of the directory, makes
  its calls and ends; the next one opens the directory again. Only the disk carries over, so
  the invariant is said of the disk: the directory hosts events and progress (`Hosts`) when it
  opens, in any mode, to a kept stream that holds them, open and with no cursor. A directory
  that holds no journals hosts nothing (`Hosts.fresh`), and a kept stream leaves its disk
  hosting what it holds (`Kept.hosts`), as opening it again changes nothing
  (`Kept.reopen_kept`).

  The calls a process makes on the stream it opened are described exactly: a read through a
  cursor of its own gives the events from its start on and leaves the stream as it was
  (`read_own_cursor`), an acknowledgment past a consumer's progress is taken
  (`Kept.acknowledge_raises`), closing writes nothing (`Kept.close_ok`), and an append keeps
  the stream kept whether it is taken or refused (`Kept.append_state`).
-/

namespace ChangeLog

namespace ProgressMap

/-- Where a consumer resumes against progress: after its offset, or at the start. -/
def resumeOffset (m : ProgressMap) (c : ConsumerId) : Nat := ((m.get? c).map (· + 1)).getD 0

@[simp] theorem resumeOffset_empty (c : ConsumerId) : ({} : ProgressMap).resumeOffset c = 0 := rfl

@[simp] theorem resumeOffset_insert (m : ProgressMap) (c : ConsumerId) (o : Nat) :
    (m.insert c o).resumeOffset c = o + 1 := by
  simp [resumeOffset]

theorem resumeOffset_insert_of_ne (m : ProgressMap) {c c' : ConsumerId} (o : Nat) (h : c' ≠ c) :
    (m.insert c o).resumeOffset c' = m.resumeOffset c' := by
  have hraw : c.raw ≠ c'.raw := fun e => h (ConsumerId.eq_of_raw e.symm)
  simp only [resumeOffset, get?_insert_of_ne _ _ _ _ hraw]

/-- Progress below an offset resumes at most there. -/
theorem Below.resumeOffset_le {m : ProgressMap} {n : Nat} (hm : m.Below n) (c : ConsumerId) :
    m.resumeOffset c ≤ n := by
  unfold resumeOffset
  cases hp : m.get? c with
  | none => exact Nat.zero_le _
  | some p => exact hm.get? hp

/-- An offset at or past where a consumer resumes raises its progress. -/
theorem raises_of_resumeOffset_le {m : ProgressMap} {c : ConsumerId} {o : Nat}
    (h : m.resumeOffset c ≤ o) : ProgressStore.Raises m c o := by
  intro cur hcur
  simp only [resumeOffset, hcur, Option.map_some, Option.getD_some] at h
  omega

end ProgressMap

theorem AckTracker.resumeOffset_eq (t : AckTracker) (c : ConsumerId) :
    t.resumeOffset c = t.acked.resumeOffset c := by
  unfold AckTracker.resumeOffset AckTracker.progress ProgressMap.resumeOffset
  cases t.acked.get? c <;> rfl

/-- The last of the events read from a place of a log whose events carry their places is the
one before the place the read stops at. -/
theorem EventLog.Placed.offset_getLast? {l : EventLog} (h : l.Placed) {r n : Nat}
    {e : ChangeEvent} (hlast : ((l.events.drop r).take n).getLast? = some e) :
    e.offset + 1 = r + ((l.events.drop r).take n).length := by
  have hpos : 0 < ((l.events.drop r).take n).length :=
    List.length_pos_of_ne_nil fun hnil => by simp [hnil] at hlast
  rw [List.getLast?_eq_getElem?, List.getElem?_take, if_pos (by simp at hpos ⊢; omega),
    List.getElem?_drop] at hlast
  rw [h _ _ hlast]
  omega

namespace CursorRegistry

theorem put_empty (id : CursorId) (c : Cursor) : ({} : CursorRegistry).put id c = ⟨[(id, c)]⟩ := by
  simp [put]

theorem put_single (id : CursorId) (c c' : Cursor) :
    (⟨[(id, c)]⟩ : CursorRegistry).put id c' = ⟨[(id, c')]⟩ := by
  simp [put]

end CursorRegistry

namespace ChangeStream

variable {dir : String} {s : ChangeStream} {d : Disk} {ie ip : Nat} {recs : List ProgressRecord}

/-! ## Calls of a process on the stream it opened -/

/-- A cursor opened at an offset the log reaches, on an open stream with no other cursor, reads
the events from there on, as many as asked, as one read may give and as the log holds; closed
again, it leaves the stream as it was. -/
theorem read_own_cursor (hopen : s.isClosed = false) (hcur : s.cursors = {}) {r : Nat}
    (hr : r ≤ s.nextOffset) (id : CursorId) (owner : Option String) (k : Nat) :
    let n := min (min k s.config.maxReadBatch) (s.nextOffset - r)
    ∃ s₁ s₂, subscribe id r owner (s, d) = .ok () (s₁, d) ∧
      readBatch id k (s₁, d) = .ok ((s.events.log.events.drop r).take n, r + n) (s₂, d) ∧
      unsubscribe id (s₂, d) = .ok () (s, d) := by
  intro n
  obtain ⟨events, acks, cursors, config⟩ := s
  subst hcur
  refine ⟨{ events, acks, cursors := ⟨[(id, ⟨owner, r, r⟩)]⟩, config },
    { events, acks, cursors := ⟨[(id, ⟨owner, r, r + n⟩)]⟩, config }, ?_, ?_, ?_⟩
  · rw [subscribe_run, hopen, if_neg Bool.false_ne_true, if_neg (Nat.not_lt.2 hr),
      CursorRegistry.put_empty]
  · have hfind : (⟨[(id, ⟨owner, r, r⟩)]⟩ : CursorRegistry).find? id = some ⟨owner, r, r⟩ := by
      simp [CursorRegistry.find?]
    have hopen₁ : isClosed { events, acks, cursors := ⟨[(id, ⟨owner, r, r⟩)]⟩, config } = false :=
      hopen
    rw [readBatch_run]
    simp only [hopen₁, Bool.false_eq_true, if_false, hfind, CursorRegistry.put_single]
    rfl
  · have hopen₂ : isClosed { events, acks, cursors := ⟨[(id, ⟨owner, r, r + n⟩)]⟩, config } = false :=
      hopen
    rw [unsubscribe_run]
    simp [hopen₂]

/-- On a kept stream that is open, acknowledging an offset the log holds past a consumer's
progress answers that offset, the tracker takes it as the consumer's progress, and the stream
stays kept. -/
theorem Kept.acknowledge_raises (hk : s.Kept dir d ie ip recs) (hopen : s.isClosed = false)
    {c : ConsumerId} {o : Nat} (ho : o < s.nextOffset) (hr : ProgressStore.Raises s.acks.acked c o) :
    ∃ t d' recs', ChangeStream.acknowledge c o (s, d) = .ok o ({ s with acks := t }, d') ∧
      t.acked = s.acks.acked.insert c o ∧ ({ s with acks := t } : ChangeStream).Kept dir d' ie ip recs' := by
  have hrm : ProgressStore.Raises s.acks.store.map c o := hk.coherent.agrees ▸ hr
  obtain ⟨jp, hjp, -, hhp⟩ := hk.progress
  obtain ⟨happ, -⟩ := hhp.append hk.free (ProgressRecord.ack_encode_fits c o)
  obtain ⟨t, d', hrun, hacked⟩ : ∃ t d', ChangeStream.acknowledge c o (s, d) =
      .ok o ({ s with acks := t }, d') ∧ t.acked = s.acks.acked.insert c o := by
    rw [acknowledge_run, hopen, if_neg Bool.false_ne_true,
      AckTracker.acknowledge_raise ho hr (ProgressStore.record_journaled hjp hk.unlimited hrm happ)]
    exact ⟨_, _, rfl, rfl⟩
  -- the call's lemma keeps the stream kept in the state the acknowledgment leaves
  obtain ⟨-, recs', hkept⟩ := hk.acknowledge c o d
  have hstate : stateOf ((Call.acknowledge c o).perform (s, d)) = ({ s with acks := t }, d') := by
    rw [show stateOf ((Call.acknowledge c o).perform (s, d)) =
      stateOf (ChangeStream.acknowledge c o (s, d)) from Call.stateOf_bind_pure _ _ _, hrun]
    rfl
  rw [Call.after, hstate] at hkept
  exact ⟨t, d', recs', hrun, hacked, hkept⟩

/-- On a kept stream that is open, the last event of a batch read from where a consumer
resumes lies past the consumer's progress, so acknowledging it is taken, and the consumer
resumes right after the batch. -/
theorem Kept.acknowledge_last (hk : s.Kept dir d ie ip recs) (hopen : s.isClosed = false)
    {c : ConsumerId} {n : Nat} {last : ChangeEvent}
    (hlast : ((s.events.log.events.drop (s.acks.resumeOffset c)).take n).getLast? = some last) :
    ∃ t d' recs', ChangeStream.acknowledge c last.offset (s, d) =
        .ok last.offset ({ s with acks := t }, d') ∧
      t.acked = s.acks.acked.insert c last.offset ∧
      ({ s with acks := t } : ChangeStream).Kept dir d' ie ip recs' ∧
      last.offset + 1 =
        s.acks.resumeOffset c + ((s.events.log.events.drop (s.acks.resumeOffset c)).take n).length := by
  have hplaced : s.events.log.Placed := hk.placed
  have hoff := hplaced.offset_getLast? hlast
  have hpos : 0 < ((s.events.log.events.drop (s.acks.resumeOffset c)).take n).length :=
    List.length_pos_of_ne_nil fun hnil => by simp [hnil] at hlast
  have hfits : ((s.events.log.events.drop (s.acks.resumeOffset c)).take n).length ≤
      s.nextOffset - s.acks.resumeOffset c := by
    simp only [List.length_take, List.length_drop]
    exact Nat.min_le_right _ _
  have hresume : s.acks.resumeOffset c ≤ s.nextOffset := by
    rw [AckTracker.resumeOffset_eq]
    exact hk.below.resumeOffset_le c
  have hraise : ProgressStore.Raises s.acks.acked c last.offset :=
    ProgressMap.raises_of_resumeOffset_le (by rw [← AckTracker.resumeOffset_eq]; omega)
  obtain ⟨t, d', recs', hrun, hacked, hkept⟩ := hk.acknowledge_raises hopen (by omega) hraise
  exact ⟨t, d', recs', hrun, hacked, hkept, hoff⟩

/-- Closing a kept stream writes nothing and keeps it kept, with its events and its tracker. -/
theorem Kept.close_ok (hk : s.Kept dir d ie ip recs) :
    ∃ s', ChangeStream.close (s, d) = .ok () (s', d) ∧ s'.Kept dir d ie ip recs ∧
      s'.events.log.events = s.events.log.events ∧ s'.acks = s.acks := by
  obtain ⟨j, hj, -, hh⟩ := hk.events
  have hsync : j.sync d = .ok () d := by
    simp only [Journal.sync, liftIo, EStateM.adaptExcept, hh.onFile.handle, Disk.sync_file]
  rw [close_run, EventStore.close_run]
  cases hc : s.events.log.closed
  · simp only [hj, hsync, Bool.false_eq_true, if_false]
    exact ⟨_, rfl, hk.of_stores rfl (by rw [hj]) rfl, rfl, rfl⟩
  · simp only [if_true]
    exact ⟨_, rfl, hk.of_stores rfl rfl rfl, rfl, rfl⟩

/-- An append to a kept stream, taken or refused, leaves it kept, with its tracker, and its
log as it was or followed by the stamped event, when that event fits a frame. -/
theorem Kept.append_state (hk : s.Kept dir d ie ip recs) (ev : NewEvent) (now : Instant)
    (hfit : (ev.stamp s.nextOffset now).encode.length < 4294967296) :
    let x := stateOf (ChangeStream.append ev now (s, d))
    x.1.Kept dir x.2 ie ip recs ∧ x.1.acks = s.acks ∧
      (x.1.events.log.events = s.events.log.events ∨
        x.1.events.log.events = s.events.log.events ++ [ev.stamp s.nextOffset now]) := by
  intro x
  have hstate : stateOf ((Call.append ev now).perform (s, d)) = x := Call.stateOf_bind_pure _ _ _
  obtain ⟨-, hkept⟩ := hk.append ev now hfit d
  obtain ⟨st, hafter, hev⟩ := Call.after_append s d ev now
  rw [Call.after, hstate] at hkept hafter
  rw [hafter] at hkept ⊢
  exact ⟨hkept, rfl, hev⟩

/-! ## Data directories that host a stream -/

/-- A data directory hosts events and progress when it opens, in any mode, to a stream kept by
the disk the opening leaves, holding those events and that progress, in the configuration
asked for, open and with no cursor. -/
def Hosts (dir : String) (config : StreamConfig) (d : Disk) (evs : List ChangeEvent)
    (acked : ProgressMap) : Prop :=
  ∀ mode, ∃ s d' ie ip recs, openDir dir mode config d = .ok s d' ∧ s.Kept dir d' ie ip recs ∧
    s.events.log.events = evs ∧ s.acks.acked = acked ∧ s.cursors = {} ∧ s.config = config ∧
    s.isClosed = false

/-- A data directory that is there and holds no journals, on a disk with room, hosts nothing. -/
theorem Hosts.fresh (hfree : d.limited = false) (hdirs : d.DirsAt dir)
    (hE : d.lookup (Disk.join dir eventsFile) = none)
    (hP : d.lookup (Disk.join dir progressFile) = none) (config : StreamConfig) :
    Hosts dir config d [] {} := by
  intro mode
  obtain ⟨s, d', hopen⟩ : ∃ s d', openDir dir mode config d = .ok s d' := openDir_create hdirs hE hP
  obtain ⟨hk, herase⟩ := Kept.openDir_fresh hfree hE hP hopen
  -- without its journals the stream is the empty one in memory
  refine ⟨s, d', _, _, [], hopen, hk, ?_, ?_, ?_, ?_, ?_⟩
  · rw [← eraseJournals_log, herase]; rfl
  · rw [← eraseJournals_acked, herase]; rfl
  · rw [← eraseJournals_cursors, herase]; rfl
  · rw [← eraseJournals_config, herase]; rfl
  · rw [← eraseJournals_isClosed, herase]; rfl

/-- A kept stream leaves its disk hosting its events and its progress. -/
theorem Kept.hosts (hk : s.Kept dir d ie ip recs) (hn : s.nextOffset < 2 ^ 64)
    (config : StreamConfig) : Hosts dir config d s.events.log.events s.acks.acked := by
  intro mode
  obtain ⟨s', hopen, hk', hevents, hacked, hcursors, hconfig, hclosed⟩ :=
    hk.reopen_kept hn mode config
  exact ⟨s', d, ie, ip, recs, hopen, hk', hevents, hacked, hcursors, hconfig, hclosed⟩

/-- Closing a kept stream writes nothing and leaves its disk hosting its events and its
progress. -/
theorem Kept.close_hosts (hk : s.Kept dir d ie ip recs) (hn : s.nextOffset < 2 ^ 64)
    (config : StreamConfig) :
    ∃ s', ChangeStream.close (s, d) = .ok () (s', d) ∧
      Hosts dir config d s.events.log.events s.acks.acked := by
  obtain ⟨s', hclose, hk', hev, hacks⟩ := hk.close_ok
  have hn' : s'.nextOffset < 2 ^ 64 := by
    rw [show s'.nextOffset = s.nextOffset from congrArg List.length hev]
    exact hn
  have hhosts := hk'.hosts hn' config
  rw [hev, hacks] at hhosts
  exact ⟨s', hclose, hhosts⟩

/-- Progress a directory hosts resumes within its events. -/
theorem Hosts.resumeOffset_le {config : StreamConfig} {evs : List ChangeEvent} {acked : ProgressMap}
    (h : Hosts dir config d evs acked) (c : ConsumerId) : acked.resumeOffset c ≤ evs.length := by
  obtain ⟨s, d', ie, ip, recs, -, hk, hevents, hacked, -⟩ := h .osDefault
  have hbelow : acked.Below s.nextOffset := hacked ▸ hk.below
  have hlen : s.nextOffset = evs.length := by rw [← hevents]; rfl
  exact hlen ▸ hbelow.resumeOffset_le c

end ChangeStream

end ChangeLog
