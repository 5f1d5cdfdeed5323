import Mathlib
import ChangeLog.Proofs.Stream.Tracker
import ChangeLog.Proofs.Journal.Append
import ChangeLog.Proofs.Journal.Records
/-
  A call on the stream that fails leaves everything as it was: the log, the cursors and their
  positions, every consumer's progress and what the store of progress holds, and on the disk
  every name and the bytes of every file, the journals of the stream among them.

  The one call that writes before it may fail is the one that appends a frame to a journal:
  an event, or a raise of progress. A frame that fails may have left part of itself at the
  end of the file, under a size limit, or the whole of itself, when forcing it out failed;
  the append then cuts the file back to where the frame began. That is where the file ended
  as long as the journal's count of its bytes is right (`Journal.Fits`), which is what the
  count stands for, and then the cut gives the file back (`Journal.append_error`). The only
  cut that fails, and is passed over, is the cut of the full device, which took no byte.
  Every other failure comes before any change. Closing is left out: a close that fails to
  force the journal out has closed the stream all the same.

  Main statement: `failed_call_changes_nothing`.
-/

namespace ChangeLog

namespace ProgressStore

variable {s s' : ProgressStore} {d d' : Disk}

/-- The store's journal fits the disk, or the store keeps no journal. -/
def Fits (s : ProgressStore) (d : Disk) : Prop := ∀ j, s.journal = some j → j.Fits d

theorem log_error_files {r : ProgressRecord} {e : StoreError} (hs : s.Fits d)
    (h : log r (s, d) = .error e (s', d')) : d.SameFiles d' := by
  simp only [log, bind, EStateM.bind, Within.current_apply] at h
  rcases hj : s.journal with _ | j <;> simp only [hj] at h
  · cases h
  · simp only [EStateM.bind, Within.disk] at h
    rcases ha : j.append r.encode d with ⟨⟨j', p⟩, d₁⟩ | ⟨e₁, d₁⟩ <;> simp only [ha] at h
    · cases h
    · cases h
      exact Journal.append_error (hs j hj) ha

/-- A write of a store that fails leaves every file as it was. -/
theorem write_error_files {r : ProgressRecord} {f : ProgressMap → ProgressMap} {e : StoreError}
    (hs : s.Fits d)
    (h : (do spend; log r; change f : Within ProgressStore StoreError Unit) (s, d) = .error e (s', d')) :
    d.SameFiles d' := by
  simp only [bind, EStateM.bind] at h
  rcases hsp : spend (s, d) with ⟨u₁, s₁, d₁⟩ | ⟨e', s₁, d₁⟩ <;> rw [hsp] at h
  · obtain ⟨-, hd⟩ := spend_ok hsp
    subst d₁
    -- spending the budget keeps the journal, so it still fits
    have hs₁ : s₁.Fits d := by
      simp only [spend, bind, EStateM.bind, Within.current_apply] at hsp
      rcases hw : s.writesLeft with _ | _ | n <;> simp only [hw] at hsp <;> cases hsp
      · exact hs
      · exact hs
    rcases hl : log r (s₁, d) with ⟨u₂, s₂, d₂⟩ | ⟨e', s₂, d₂⟩ <;> simp only [hl] at h
    · simp only [change, bind, EStateM.bind, Within.current_apply, Within.replace_apply] at h
      cases h
    · cases h
      exact log_error_files hs₁ hl
  · cases h
    rw [(spend_error hsp).2]
    exact Disk.SameFiles.refl d

theorem record_error_files {c : ConsumerId} {o : Nat} {e : StoreError} (hs : s.Fits d)
    (h : record c o (s, d) = .error e (s', d')) : d.SameFiles d' := by
  simp only [record, bind, EStateM.bind, Within.current_apply] at h
  split at h <;> dsimp only at h <;> split at h
  · cases h
  · exact write_error_files hs h
  · cases h
  · exact write_error_files hs h

/-- A raise, on a store with no budget of writes, whose frame its journal cannot take fails
as the journal did and leaves the store. -/
theorem record_of_append_error {c : ConsumerId} {o : Nat} {j : Journal} {e : StoreError}
    {d₁ : Disk} (hr : Raises s.map c o) (hw : s.writesLeft = none) (hj : s.journal = some j)
    (ha : j.append (ProgressRecord.ack c o).encode d = .error e d₁) :
    record c o (s, d) = .error e (s, d₁) := by
  rw [record_raise hr]
  simp only [bind, EStateM.bind, spend, log, Within.current_apply, hw, hj, Within.disk, ha,
    pure, EStateM.pure]

end ProgressStore

/-- An append to a store that fails leaves the store, and every file when its journal fits:
a closed store refuses at once, one in memory does not fail, and a durable one fails only at
its journal. -/
theorem EventStore.append_error_files {st st' : EventStore} {ev : NewEvent} {now : Instant}
    {err : StoreError} {d d' : Disk} (hfit : ∀ j, st.journal = some j → j.Fits d)
    (h : EventStore.append ev now (st, d) = .error err (st', d')) : st' = st ∧ d.SameFiles d' := by
  rw [EventStore.append_run] at h
  split at h
  · cases h; exact ⟨rfl, Disk.SameFiles.refl d⟩
  · rcases hj : st.journal with _ | j <;> simp only [hj, reduceCtorEq] at h
    rcases ha : j.append (ev.stamp st.nextOffset now).encode d with
      ⟨⟨j', p⟩, d₁⟩ | ⟨e₁, d₁⟩ <;> simp only [ha, reduceCtorEq] at h
    cases h
    exact ⟨rfl, Journal.append_error (hfit j hj) ha⟩

namespace ChangeStream

/-- The journals of the stream's stores fit the disk. -/
structure JournalsFit (s : ChangeStream) (d : Disk) : Prop where
  events : ∀ j, s.events.journal = some j → j.Fits d
  progress : s.acks.store.Fits d

/-- What a failed call must leave as it was: the log, the cursors, the progress, and what the
store of progress holds. -/
structure Same (s s' : ChangeStream) : Prop where
  log : s'.events.log = s.events.log
  cursors : s'.cursors = s.cursors
  acked : s'.acks.acked = s.acks.acked
  stored : s'.acks.store.map = s.acks.store.map

theorem Same.refl (s : ChangeStream) : s.Same s := ⟨rfl, rfl, rfl, rfl⟩

theorem Same.stats {s s' : ChangeStream} (h : s.Same s') : s'.stats = s.stats := by
  simp [ChangeStream.stats, nextOffset, isClosed, EventStore.nextOffset, EventStore.isClosed,
    AckTracker.tracked, h.log, h.cursors, h.acked]

variable {s : ChangeStream} {d : Disk} {e : StreamError} {s' : ChangeStream} {d' : Disk}

/-- An append that fails: its event type is blank, the stream is closed, or the journal could
not take the frame, and then the store is as it was. -/
theorem append_error_same {ev : NewEvent} {now : Instant} (hfit : s.JournalsFit d)
    (h : append ev now (s, d) = .error e (s', d')) : s.Same s' ∧ d.SameFiles d' := by
  rw [append_run] at h
  split at h
  · cases h; exact ⟨Same.refl s, Disk.SameFiles.refl d⟩
  · rcases hr : EventStore.append ev now (s.events, d) with ⟨a, st, d₁⟩ | ⟨err, st, d₁⟩ <;>
      simp only [hr, reduceCtorEq] at h
    cases h
    obtain ⟨rfl, hfiles⟩ := EventStore.append_error_files hfit.events hr
    exact ⟨Same.refl _, hfiles⟩

/-- An acknowledgment that fails: the stream is closed, the offset is out of range, or the
store's write failed, which leaves the store's map and every file. -/
theorem acknowledge_error_same {c : ConsumerId} {o : Nat} (hfit : s.JournalsFit d)
    (h : acknowledge c o (s, d) = .error e (s', d')) : s.Same s' ∧ d.SameFiles d' := by
  rw [acknowledge_run] at h
  split at h
  · cases h; exact ⟨Same.refl s, Disk.SameFiles.refl d⟩
  · rcases AckTracker.acknowledge_cases s.acks d c o s.nextOffset with
      ⟨_, hr⟩ | ⟨_, _, _, _, hr⟩ | ⟨_, _, ⟨_, _, _, hr⟩ | ⟨e₁, st, d₁, hrec, hr⟩⟩ <;>
      simp only [hr] at h <;> cases h
    · exact ⟨Same.refl s, Disk.SameFiles.refl d⟩
    · exact ⟨⟨rfl, rfl, rfl, ProgressStore.record_error hrec⟩,
        ProgressStore.record_error_files hfit.progress hrec⟩

end ChangeStream

namespace Call

/-- A call answers by wrapping what its operation gives, which cannot fail, so it fails as the
operation does. -/
theorem error_of_bind_ok {σ ε α β : Type} {m : EStateM ε σ α} {k : α → EStateM ε σ β} {x y : σ}
    {e : ε} (hk : ∀ a z, ∃ b, k a z = .ok b z) (h : (m >>= k) x = .error e y) : m x = .error e y := by
  simp only [bind, EStateM.bind] at h
  rcases hm : m x with ⟨a, x'⟩ | ⟨e', x'⟩ <;> simp only [hm] at h
  · obtain ⟨b, hb⟩ := hk a x'
    rw [hb] at h
    cases h
  · cases h
    rfl

variable {s : ChangeStream} {d : Disk} {e : StreamError} {s' : ChangeStream} {d' : Disk}

/-- A call that fails, closing apart, leaves the stream and every file as they were. -/
theorem failed_same (call : Call) (hc : call ≠ .close) (hfit : s.JournalsFit d)
    (h : call.perform (s, d) = .error e (s', d')) : s.Same s' ∧ d.SameFiles d' := by
  have hpure : ∀ {α : Type} (f : α → Answer) (a : α) (z : ChangeStream × Disk),
      ∃ b, (pure (f a) : Within ChangeStream StreamError Answer) z = .ok b z :=
    fun f a z => ⟨f a, rfl⟩
  -- every call but an append and an acknowledgment fails before it changes anything
  suffices hq : call.writes = false ∨ (∃ id f owner, call = .subscribe id f owner) ∨
      (∃ id max, call = .readBatch id max) ∨ (∃ id, call = .unsubscribe id) →
      s' = s ∧ d' = d by
    cases call with
    | append ev now => exact ChangeStream.append_error_same hfit (error_of_bind_ok (hpure _) h)
    | acknowledge c o =>
      exact ChangeStream.acknowledge_error_same hfit (error_of_bind_ok (hpure _) h)
    | close => exact absurd rfl hc
    | _ =>
      obtain ⟨hs, hd⟩ := hq (by simp [writes])
      subst s' d'
      exact ⟨ChangeStream.Same.refl s, Disk.SameFiles.refl d⟩
  rintro (hw | ⟨id, f, owner, rfl⟩ | ⟨id, max, rfl⟩ | ⟨id, rfl⟩)
  · -- a query leaves everything, also when it fails
    have hst := stateOf_of_writes s d call hw
    rw [h, stateOf_error, Prod.mk.injEq] at hst
    exact hst
  · have h' := error_of_bind_ok (fun _ => hpure (fun _ => .done) ()) h
    rw [ChangeStream.subscribe_run] at h'
    split_ifs at h' <;> cases h' <;> exact ⟨rfl, rfl⟩
  · have h' := error_of_bind_ok (fun (q : List ChangeEvent × Nat) z => ⟨Answer.batch q.1 q.2, rfl⟩) h
    rw [ChangeStream.readBatch_run] at h'
    split_ifs at h'
    · cases h'; exact ⟨rfl, rfl⟩
    · split at h' <;> cases h'
      exact ⟨rfl, rfl⟩
  · have h' := error_of_bind_ok (fun _ => hpure (fun _ => .done) ()) h
    rw [ChangeStream.unsubscribe_run] at h'
    split_ifs at h' <;> cases h' <;> exact ⟨rfl, rfl⟩

end Call

/-- A call other than closing that fails leaves all a caller can see as it was: the next
offset, the events, the cursors with their positions, every consumer's progress, what the
store of progress holds, the state of the stream, and the bytes under every name on the
disk, the journals of the stream among them. -/
theorem failed_call_changes_nothing (s : ChangeStream) (d : Disk) (call : Call)
    (hc : call ≠ .close) (hfit : s.JournalsFit d) {e : StreamError} {s' : ChangeStream}
    {d' : Disk} (h : call.perform (s, d) = .error e (s', d')) :
    s'.nextOffset = s.nextOffset ∧ s'.events.log = s.events.log ∧ s'.cursors = s.cursors ∧
      (∀ c, s'.acks.progress c = s.acks.progress c) ∧ s'.acks.store.map = s.acks.store.map ∧
      s'.stats = s.stats ∧ ∀ path, d'.readPath path = d.readPath path := by
  obtain ⟨hs, hd⟩ := Call.failed_same call hc hfit h
  refine ⟨?_, hs.log, hs.cursors, fun c => ?_, hs.stored, hs.stats, hd.readPath⟩
  · simp only [ChangeStream.nextOffset, EventStore.nextOffset, hs.log]
  · simp only [AckTracker.progress, hs.acked]

/-- An acknowledgment whose frame is torn by the size limit of a disk under faults: the four
bytes that fit below the limit are written and cut away again, and the acknowledgment fails. -/
theorem torn_acknowledgment_changes_nothing :
    let c : ConsumerId := ⟨"billing", by decide⟩
    let ev : ChangeEvent := NewEvent.stamp ⟨"created", [], [1], "db"⟩ 0 Instant.epoch
    let d : Disk :=
      { entries := [("progress.wal", .file 0)], blobs := [(0, [])], nextIno := 1, limited := true,
        limit := 4 }
    let s : ChangeStream := ⟨⟨⟨[ev], false⟩, none⟩,
      ⟨{ journal := some ⟨"progress.wal", .file 0, 0, .everyWrite⟩ }, {}⟩, {}, {}⟩
    ∃ s' d', (Call.acknowledge c 0).perform (s, d) =
        .error (.ofStore (.io .fileTooLarge)) (s', d') ∧
      Call.acknowledge c 0 ≠ .close ∧ s.JournalsFit d ∧
      (s'.nextOffset = s.nextOffset ∧ s'.events.log = s.events.log ∧ s'.cursors = s.cursors ∧
        (∀ c, s'.acks.progress c = s.acks.progress c) ∧ s'.acks.store.map = s.acks.store.map ∧
        s'.stats = s.stats ∧ ∀ path, d'.readPath path = d.readPath path) := by
  intro c ev d s
  have hc : Call.acknowledge c 0 ≠ .close := by simp
  -- the journal of progress counts the empty file it writes to
  have hfit : s.JournalsFit d := by
    refine ⟨fun j hj => (by cases hj), fun j hj ino hino => ?_⟩
    cases hj
    cases hino
    rfl
  -- four bytes fit below the limit, and the frame of the raise is longer
  have hroom : d.room 0 < (Frame.encode (ProgressRecord.ack c 0).encode).length := by
    rw [Frame.encode_length]
    show 4 < Frame.headerSize + _
    simp only [Frame.headerSize]
    omega
  have happ := Journal.append_torn (j := ⟨"progress.wal", .file 0, 0, .everyWrite⟩)
    (fun ino h => by cases h; rfl) rfl rfl hroom (ProgressRecord.ack_encode_fits c 0).2
  obtain ⟨d', hrec⟩ : ∃ d', ProgressStore.record c 0 (s.acks.store, d) =
      .error (.io .fileTooLarge) (s.acks.store, d') :=
    ⟨_, ProgressStore.record_of_append_error (fun cur h => by cases h) rfl rfl happ⟩
  -- the tracker passes the store's failure on, and the call answers with it
  have hack := AckTracker.acknowledge_of_raises s.acks d (c := c) (o := 0) (n := s.nextOffset)
    (by decide) (fun cur h => by cases h)
  rw [hrec] at hack
  have hopen : s.isClosed = false := rfl
  have h : (Call.acknowledge c 0).perform (s, d) = .error (.ofStore (.io .fileTooLarge))
      ({ s with acks := { s.acks with store := s.acks.store } }, d') := by
    simp only [Call.perform, bind, EStateM.bind, ChangeStream.acknowledge_run, hopen,
      Bool.false_eq_true, if_false, hack]
  exact ⟨_, d', h, hc, hfit, failed_call_changes_nothing s d _ hc hfit h⟩

end ChangeLog
