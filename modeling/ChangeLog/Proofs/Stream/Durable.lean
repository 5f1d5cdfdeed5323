import Mathlib
import ChangeLog.Proofs.Journal.Open
import ChangeLog.Proofs.Journal.Records
import ChangeLog.Proofs.Stream.Progress
import ChangeLog.Proofs.Stream.Tracker
/-
  A stream over journals behaves as the same stream held in memory. The abstraction is
  `ChangeStream.eraseJournals`, which takes both journals away and keeps the events,
  progress, cursors and configuration; a step's outcome is seen in memory through
  `Call.withoutJournals`, the same answer or failure on the stream without journals.

  `ChangeStream.Kept` says what the disk keeps of a stream over a data directory: the
  events journal holds the encodings of the log's events, the progress journal holds
  acknowledgments that fold to the store's progress, both files are apart and the
  directories above them in place. One lemma per kind of call shows that the call answers
  as it does in memory and keeps the stream kept: the calls on cursors and the queries
  (`Call.perform_onlyCursors`), an append (`Kept.append`), an acknowledgment
  (`Kept.acknowledge`) and closing (`Kept.close`). `Kept.step` gathers them, and
  `Kept.runAll` follows by induction over a sequence of calls: the answers are those of
  the stream in memory, and the stream stays kept.
-/

namespace ChangeLog

namespace ChangeStream

/-- The stream with its journals taken away: the same events, progress, cursors and
configuration, held in memory only. -/
def eraseJournals (s : ChangeStream) : ChangeStream :=
  { s with
    events := { s.events with journal := none }
    acks := { s.acks with store := { s.acks.store with journal := none } } }

variable (s : ChangeStream)

@[simp] theorem eraseJournals_isClosed : s.eraseJournals.isClosed = s.isClosed := rfl

@[simp] theorem eraseJournals_nextOffset : s.eraseJournals.nextOffset = s.nextOffset := rfl

@[simp] theorem eraseJournals_cursors : s.eraseJournals.cursors = s.cursors := rfl

@[simp] theorem eraseJournals_config : s.eraseJournals.config = s.config := rfl

@[simp] theorem eraseJournals_acked : s.eraseJournals.acks.acked = s.acks.acked := rfl

@[simp] theorem eraseJournals_log : s.eraseJournals.events.log = s.events.log := rfl

@[simp] theorem eraseJournals_withCursors (r : CursorRegistry) :
    ({ s with cursors := r }).eraseJournals = { s.eraseJournals with cursors := r } := rfl

end ChangeStream

namespace Call

/-- A step's outcome seen in memory: the same answer or failure, on the stream without its
journals and a disk of its own. -/
def withoutJournals {α : Type} (e : Disk) :
    EStateM.Result StreamError (ChangeStream × Disk) α →
      EStateM.Result StreamError (ChangeStream × Disk) α
  | .ok a x => .ok a (x.1.eraseJournals, e)
  | .error err x => .error err (x.1.eraseJournals, e)

/-- Whether a call reads and changes no store: the calls on cursors and the queries. -/
def onlyCursors : Call → Bool
  | append .. | acknowledge .. | close => false
  | _ => true

variable (s : ChangeStream) (d e : Disk)

/-- A call that reads and changes no store answers the same without journals, writes no
file, and changes the cursors alone. -/
theorem perform_onlyCursors (call : Call) (hc : call.onlyCursors = true) :
    call.perform (s.eraseJournals, e) = withoutJournals e (call.perform (s, d)) ∧
    (stateOf (call.perform (s, d))).2 = d ∧
    (call.after s d).events = s.events ∧ (call.after s d).acks = s.acks := by
  cases call <;> simp only [onlyCursors, Bool.false_eq_true] at hc
  case get o =>
    have hg : s.eraseJournals.get o = s.get o := rfl
    simp only [perform, after, bind, EStateM.bind, Within.current_apply, hg]
    cases s.get o <;> simp [withoutJournals, pure, EStateM.pure]
  case subscribe id f owner =>
    simp only [perform, after, bind, EStateM.bind, ChangeStream.subscribe_run]
    cases h : s.isClosed
    · by_cases hf : s.nextOffset < f <;> simp [h, hf, withoutJournals, pure, EStateM.pure]
    · simp [h, withoutJournals]
  case readBatch id max =>
    have hb : s.eraseJournals.batchSize = s.batchSize := rfl
    simp only [perform, after, bind, EStateM.bind, ChangeStream.readBatch_run, hb]
    cases h : s.isClosed
    · cases hf : s.cursors.find? id <;> simp [h, hf, withoutJournals, pure, EStateM.pure]
    · simp [h, withoutJournals]
  case unsubscribe id =>
    simp only [perform, after, bind, EStateM.bind, ChangeStream.unsubscribe_run]
    cases h : s.isClosed
    · by_cases hf : s.cursors.cursors.any (·.1 = id) = true <;>
        simp [h, hf, withoutJournals, pure, EStateM.pure]
    · simp [h, withoutJournals]
  case cursorInfo id =>
    simp only [perform, after, bind, EStateM.bind, ChangeStream.cursorInfo_run]
    cases h : s.isClosed
    · cases hf : s.cursors.info id <;> simp [h, hf, withoutJournals, pure, EStateM.pure]
    · simp [h, withoutJournals]
  case progress c =>
    simp only [perform, after, bind, EStateM.bind, ChangeStream.progress_run]
    cases h : s.isClosed <;> simp [h, withoutJournals, pure, EStateM.pure, AckTracker.progress]
  case resumeOffset c =>
    simp only [perform, after, bind, EStateM.bind, ChangeStream.resumeOffset_run]
    cases h : s.isClosed <;>
      simp [h, withoutJournals, pure, EStateM.pure, AckTracker.resumeOffset, AckTracker.progress]
  case consumers =>
    simp only [perform, after, bind, EStateM.bind, ChangeStream.consumers_run]
    cases h : s.isClosed <;> simp [h, withoutJournals, pure, EStateM.pure, AckTracker.all]
  case replay lo hi =>
    have hr : Replay.range s.eraseJournals.events lo hi = Replay.range s.events lo hi := rfl
    simp only [perform, after, bind, EStateM.bind, ChangeStream.replay_run, hr]
    cases h : s.isClosed
    · cases Replay.range s.events lo hi <;> simp [h, withoutJournals, pure, EStateM.pure]
    · simp [h, withoutJournals]
  case replayFrom lo =>
    have hr : Replay.fromOffset s.eraseJournals.events lo = Replay.fromOffset s.events lo := rfl
    simp only [perform, after, bind, EStateM.bind, ChangeStream.replayFrom_run, hr]
    cases h : s.isClosed
    · cases Replay.fromOffset s.events lo <;> simp [h, withoutJournals, pure, EStateM.pure]
    · simp [h, withoutJournals]

/-- A call adds at most one event to the log. -/
theorem nextOffset_after_le (call : Call) : (call.after s d).nextOffset ≤ s.nextOffset + 1 := by
  have hsame : ∀ s' : ChangeStream, s'.events = s.events → s'.nextOffset ≤ s.nextOffset + 1 :=
    fun s' h => by simp [ChangeStream.nextOffset, h]
  cases call
  case append ev now =>
    obtain ⟨st, h, hl | hl⟩ := after_append s d ev now <;> rw [h] <;>
      simp [ChangeStream.nextOffset, EventStore.nextOffset, EventLog.nextOffset, hl]
  case close =>
    obtain ⟨st, h, hl⟩ := after_close s d
    rw [h]
    simp [ChangeStream.nextOffset, EventStore.nextOffset, EventLog.nextOffset, hl]
  case acknowledge c o =>
    obtain ⟨t, h, -⟩ := after_acknowledge s d c o
    rw [h]
    exact hsame _ rfl
  case subscribe id f owner =>
    rw [after_subscribe]
    split <;> exact hsame _ rfl
  case readBatch id max =>
    rw [after_readBatch]
    split
    · exact hsame _ rfl
    · split <;> exact hsame _ rfl
  case unsubscribe id =>
    rw [after_unsubscribe]
    split <;> exact hsame _ rfl
  all_goals
    rw [after_of_writes s d _ rfl]
    omega

end Call

/-! ## Writing a raise -/

namespace ProgressStore

variable {st : ProgressStore} {d : Disk} {c : ConsumerId} {o : Nat}

/-- A store with a journal and no limit writes a raise to the journal and then records it. -/
theorem record_journaled {j j' : Journal} {p : Nat} {d' : Disk} (hj : st.journal = some j)
    (hw : st.writesLeft = none) (hr : Raises st.map c o)
    (happ : j.append (ProgressRecord.ack c o).encode d = .ok (j', p) d') :
    record c o (st, d) = .ok () ({ st with journal := some j', map := st.map.record c o }, d') := by
  rw [record_raise hr]
  simp only [bind, EStateM.bind, spend, Within.current_apply, hw, log, hj, Within.disk, happ,
    Within.replace_apply, change, pure, EStateM.pure]

/-- A store in memory with no limit records every acknowledgment. -/
theorem record_memory (hj : st.journal = none) (hw : st.writesLeft = none) :
    record c o (st, d) = .ok () ({ st with map := st.map.record c o }, d) := by
  simp only [record, bind, EStateM.bind, Within.current_apply, hj, Option.isSome_none,
    Bool.false_and, Bool.false_eq_true, if_false, spend, hw, log, pure, EStateM.pure, change,
    Within.replace_apply]

end ProgressStore

/-- A raise whose write is done is the new progress. -/
theorem AckTracker.acknowledge_raise {t : AckTracker} {d : Disk} {c : ConsumerId} {o n : Nat}
    (hlt : o < n) (hr : ProgressStore.Raises t.acked c o) {st : ProgressStore} {d' : Disk}
    (hrec : ProgressStore.record c o (t.store, d) = .ok () (st, d')) :
    acknowledge c o n (t, d) = .ok o (⟨st, t.acked.insert c o⟩, d') := by
  rw [acknowledge_of_raises t d hlt hr, hrec]

theorem ChangeEvent.encode_length_pos (ev : ChangeEvent) : 0 < ev.encode.length := by
  simp [ChangeEvent.encode, Le.u64]

/-- Events that carry their places as offsets still do with one more at the end that carries
the next place. -/
theorem placed_append {evs : List ChangeEvent}
    (h : ∀ i (ev : ChangeEvent), evs[i]? = some ev → ev.offset = i) {x : ChangeEvent}
    (hx : x.offset = evs.length) :
    ∀ i (ev : ChangeEvent), (evs ++ [x])[i]? = some ev → ev.offset = i := by
  intro i ev hi
  by_cases hlt : i < evs.length
  · rw [List.getElem?_append_left hlt] at hi
    exact h i ev hi
  · rw [List.getElem?_append_right (Nat.le_of_not_lt hlt)] at hi
    -- past the old events only the new one is left, at the next place
    have hi' : i - evs.length = 0 := by
      by_contra hne
      rw [List.getElem?_eq_none (by simp; omega)] at hi
      cases hi
    rw [hi'] at hi
    simp only [List.getElem?_cons_zero, Option.some.injEq] at hi
    rw [← hi, hx]
    omega

/-! ## The stream the disk keeps -/

namespace ChangeStream

/-- A stream over a data directory kept by the disk: its events journal holds the encodings
of the log's events, its progress journal holds records that fold to the store's progress,
each on its own file under the directory, whose directories are in place. The disk has
room, the store no limit of writes, the tracker lists what the store lists, the log's
events carry their places as offsets and their ids, and the records are acknowledgments
of offsets the log holds. -/
structure Kept (dir : String) (s : ChangeStream) (d : Disk) (ie ip : Nat)
    (recs : List ProgressRecord) : Prop where
  free : d.limited = false
  unlimited : s.acks.store.writesLeft = none
  coherent : s.acks.Coherent
  below : s.ProgressBelow
  placed : ∀ i (ev : ChangeEvent), s.events.log.events[i]? = some ev → ev.offset = i
  stamped : ∀ ev ∈ s.events.log.events, ev.verifyId = true
  apart : ie ≠ ip
  events : ∃ j, s.events.journal = some j ∧ j.path = Disk.join dir eventsFile ∧
    j.Holds d ie (s.events.log.events.map ChangeEvent.encode)
  progress : ∃ j, s.acks.store.journal = some j ∧ j.path = Disk.join dir progressFile ∧
    j.Holds d ip (recs.map ProgressRecord.encode)
  folded : recs.foldl ProgressRecord.apply {} = s.acks.store.map
  acks : ∀ r ∈ recs, ∃ c o, r = .ack c o ∧ o < s.nextOffset
  eventsDirs : d.DirsAt (Disk.parent (Disk.join dir eventsFile))
  progressDirs : d.DirsAt (Disk.parent (Disk.join dir progressFile))

variable {dir : String} {s : ChangeStream} {d : Disk} {ie ip : Nat} {recs : List ProgressRecord}

/-- A change that keeps the events, the events journal and the tracker keeps the stream
kept. -/
theorem Kept.of_stores {s' : ChangeStream} (hk : s.Kept dir d ie ip recs)
    (hlog : s'.events.log.events = s.events.log.events)
    (hjournal : s'.events.journal = s.events.journal) (hacks : s'.acks = s.acks) :
    s'.Kept dir d ie ip recs := by
  have hn : s'.nextOffset = s.nextOffset := by
    simp [nextOffset, EventStore.nextOffset, EventLog.nextOffset, hlog]
  refine ⟨hk.free, hacks ▸ hk.unlimited, hacks ▸ hk.coherent, ?_, hlog ▸ hk.placed,
    hlog ▸ hk.stamped, hk.apart, hlog ▸ hjournal ▸ hk.events, hacks ▸ hk.progress,
    hacks ▸ hk.folded, hn ▸ hk.acks, hk.eventsDirs, hk.progressDirs⟩
  unfold ProgressBelow
  rw [hacks, hn]
  exact hk.below

/-- Closing a kept stream forces the events journal out, which changes no file, and closes
the log; in memory it closes the log alone. -/
theorem Kept.close (hk : s.Kept dir d ie ip recs) (e : Disk) :
    Call.close.perform (s.eraseJournals, e) = Call.withoutJournals e (Call.close.perform (s, d)) ∧
    (Call.close.after s d).Kept dir (stateOf (Call.close.perform (s, d))).2 ie ip recs := by
  obtain ⟨j, hj, -, hh⟩ := hk.events
  have hsync : j.sync d = .ok () d := by
    simp only [Journal.sync, liftIo, EStateM.adaptExcept, hh.onFile.handle, Disk.sync_file]
  simp only [Call.perform, Call.after, bind, EStateM.bind, close_run, EventStore.close_run]
  cases hc : s.events.log.closed
  · have hc' : s.eraseJournals.events.log.closed = false := hc
    simp only [hc', hj, hsync, Bool.false_eq_true, if_false]
    exact ⟨rfl, hk.of_stores rfl (by rw [hj]; rfl) rfl⟩
  · have hc' : s.eraseJournals.events.log.closed = true := hc
    simp only [hc', if_true]
    exact ⟨rfl, hk.of_stores rfl rfl rfl⟩

/-- Appending to a kept stream writes the stamped event to the events journal, as the frame
after the others, and publishes it; in memory it publishes the same event. -/
theorem Kept.append (hk : s.Kept dir d ie ip recs) (ev : NewEvent) (now : Instant)
    (hfit : (ev.stamp s.nextOffset now).encode.length < 4294967296) (e : Disk) :
    (Call.append ev now).perform (s.eraseJournals, e) =
      Call.withoutJournals e ((Call.append ev now).perform (s, d)) ∧
    ((Call.append ev now).after s d).Kept dir (stateOf ((Call.append ev now).perform (s, d))).2
      ie ip recs := by
  obtain ⟨j, hj, hpath, hh⟩ := hk.events
  obtain ⟨happ, hh'⟩ := hh.append hk.free ⟨ChangeEvent.encode_length_pos _, hfit⟩
  simp only [Call.perform, Call.after, bind, EStateM.bind, append_run, EventStore.append_run]
  by_cases hblank : Unicode.isBlank ev.eventType = true
  · simp only [hblank, if_true]
    exact ⟨rfl, hk.of_stores rfl rfl rfl⟩
  simp only [hblank, Bool.false_eq_true, if_false]
  cases hc : s.events.log.closed
  case true =>
    have hc' : s.eraseJournals.events.log.closed = true := hc
    simp only [hc', if_true]
    exact ⟨rfl, hk.of_stores rfl rfl rfl⟩
  have hc' : s.eraseJournals.events.log.closed = false := hc
  have hn : s.events.nextOffset = s.nextOffset := rfl
  simp only [hc', hj, hn, happ, Bool.false_eq_true, if_false]
  refine ⟨rfl, ?_⟩
  -- the new event is the last frame of the events journal; the other file is untouched
  simp only [pure, EStateM.pure, stateOf_ok]
  obtain ⟨jp, hjp, hpp, hhp⟩ := hk.progress
  have hlen : s.nextOffset = s.events.log.events.length := rfl
  have hgrow : s.nextOffset ≤ (s.events.log.publish (ev.stamp s.nextOffset now)).nextOffset := by
    simp [EventLog.nextOffset_publish, nextOffset, EventStore.nextOffset]
  refine ⟨by simp [hk.free], hk.unlimited, hk.coherent, hk.below.mono hgrow, ?_, ?_, hk.apart,
    ⟨_, rfl, hpath, by simpa [EventLog.publish] using hh'⟩,
    ⟨jp, hjp, hpp, hhp.setBlob _ hk.apart⟩, hk.folded, ?_,
    hk.eventsDirs.keeps (Disk.keeps_setBlob d ie _),
    hk.progressDirs.keeps (Disk.keeps_setBlob d ie _)⟩
  · exact placed_append hk.placed (by simp [NewEvent.stamp, hlen])
  · intro x hx
    rcases List.mem_append.1 hx with hx | hx
    · exact hk.stamped x hx
    · rw [List.mem_singleton.1 hx]
      exact NewEvent.verifyId_stamp _ _ _
  · intro r hr
    obtain ⟨c, o, rfl, ho⟩ := hk.acks r hr
    exact ⟨c, o, rfl, Nat.lt_of_lt_of_le ho hgrow⟩

/-- An acknowledgment on a kept stream answers as it does in memory; a raise is written to
the progress journal as one more record, which folds to the store's progress. -/
theorem Kept.acknowledge (hk : s.Kept dir d ie ip recs) (c : ConsumerId) (o : Nat) (e : Disk) :
    (Call.acknowledge c o).perform (s.eraseJournals, e) =
      Call.withoutJournals e ((Call.acknowledge c o).perform (s, d)) ∧
    ∃ recs', ((Call.acknowledge c o).after s d).Kept dir
      (stateOf ((Call.acknowledge c o).perform (s, d))).2 ie ip recs' := by
  simp only [Call.perform, Call.after, bind, EStateM.bind, acknowledge_run, eraseJournals_isClosed,
    eraseJournals_nextOffset]
  by_cases hclosed : s.isClosed = true
  · simp only [hclosed, if_true]
    exact ⟨rfl, recs, hk.of_stores rfl rfl rfl⟩
  simp only [hclosed]
  by_cases hout : s.nextOffset ≤ o
  · -- out of range: both refuse, nothing changes
    rw [(AckTracker.acknowledge_answers s.acks c o _ d).2.1 hout,
      (AckTracker.acknowledge_answers s.eraseJournals.acks c o _ e).2.1 hout]
    exact ⟨rfl, recs, hk.of_stores rfl rfl rfl⟩
  have hlt : o < s.nextOffset := Nat.lt_of_not_le hout
  by_cases hstale : ∃ cur, s.acks.progress c = some cur ∧ o ≤ cur
  · -- stale: both answer the progress held, nothing changes
    obtain ⟨cur, hp, hle⟩ := hstale
    rw [(AckTracker.acknowledge_answers s.acks c o _ d).2.2.2 cur hp hle hlt,
      (AckTracker.acknowledge_answers s.eraseJournals.acks c o _ e).2.2.2 cur hp hle hlt]
    exact ⟨rfl, recs, hk.of_stores rfl rfl rfl⟩
  -- a raise: written to the journal on disk, taken at once in memory
  have hr : ProgressStore.Raises s.acks.acked c o := fun cur hp =>
    Nat.lt_of_not_le fun hle => hstale ⟨cur, hp, hle⟩
  have hrm : ProgressStore.Raises s.acks.store.map c o := hk.coherent.agrees ▸ hr
  obtain ⟨jp, hjp, hpp, hhp⟩ := hk.progress
  obtain ⟨happ, hh'⟩ := hhp.append hk.free (ProgressRecord.ack_encode_fits c o)
  rw [AckTracker.acknowledge_raise hlt hr (ProgressStore.record_journaled hjp hk.unlimited hrm happ),
    AckTracker.acknowledge_raise (t := s.eraseJournals.acks) hlt hr
      (ProgressStore.record_memory rfl hk.unlimited)]
  refine ⟨rfl, recs ++ [.ack c o], ?_⟩
  obtain ⟨je, hje, hpe, hhe⟩ := hk.events
  have hmap : s.acks.acked.insert c o = s.acks.store.map.record c o := by
    rw [hk.coherent.agrees, ProgressStore.record_of_raises hrm]
  simp only [pure, EStateM.pure]
  refine ⟨by simp [hk.free], hk.unlimited, ⟨hmap, hk.coherent.sorted.insert c o⟩,
    hk.below.insert c hlt, hk.placed, hk.stamped, hk.apart,
    ⟨je, hje, hpe, hhe.setBlob _ hk.apart.symm⟩, ⟨_, rfl, hpp, by simpa using hh'⟩, ?_, ?_,
    hk.eventsDirs.keeps (Disk.keeps_setBlob d ip _),
    hk.progressDirs.keeps (Disk.keeps_setBlob d ip _)⟩
  · rw [List.foldl_append, hk.folded]
    rfl
  · intro r hr
    rcases List.mem_append.1 hr with hr | hr
    · exact hk.acks r hr
    · exact ⟨c, o, List.mem_singleton.1 hr, hlt⟩

/-- Every call on a kept stream answers as it does in memory and keeps the stream kept,
when an event it appends fits a frame. -/
theorem Kept.step (hk : s.Kept dir d ie ip recs) (call : Call)
    (hfit : ∀ ev now, call = .append ev now →
      (ev.stamp s.nextOffset now).encode.length < 4294967296) (e : Disk) :
    call.perform (s.eraseJournals, e) = Call.withoutJournals e (call.perform (s, d)) ∧
    ∃ recs', (call.after s d).Kept dir (stateOf (call.perform (s, d))).2 ie ip recs' := by
  cases hc : call.onlyCursors
  · cases call <;> simp only [Call.onlyCursors, Bool.true_eq_false] at hc
    case append ev now =>
      obtain ⟨hsim, hkept⟩ := hk.append ev now (hfit ev now rfl) e
      exact ⟨hsim, recs, hkept⟩
    case acknowledge c o => exact hk.acknowledge c o e
    case close =>
      obtain ⟨hsim, hkept⟩ := hk.close e
      exact ⟨hsim, recs, hkept⟩
  · obtain ⟨hsim, hdisk, hev, hacks⟩ := Call.perform_onlyCursors s d e call hc
    refine ⟨hsim, recs, ?_⟩
    rw [hdisk]
    exact hk.of_stores (by rw [hev]) (by rw [hev]) hacks

end ChangeStream

/-! ## Runs of calls -/

/-- What a step answers, or how it fails, without the state it leaves. -/
def outcome {ε σ α : Type} : EStateM.Result ε σ α → Except ε α
  | .ok a _ => .ok a
  | .error e _ => .error e

namespace Call

/-- Runs calls one after another, giving each call's answer or failure and the stream and
disk left at the end. -/
def runAll : List Call → ChangeStream × Disk →
    List (Except StreamError Answer) × (ChangeStream × Disk)
  | [], x => ([], x)
  | call :: rest, x =>
    let next := runAll rest (stateOf (call.perform x))
    (outcome (call.perform x) :: next.1, next.2)

@[simp] theorem outcome_withoutJournals {α : Type} (e : Disk)
    (r : EStateM.Result StreamError (ChangeStream × Disk) α) :
    outcome (withoutJournals e r) = outcome r := by
  cases r <;> rfl

@[simp] theorem stateOf_withoutJournals {α : Type} (e : Disk)
    (r : EStateM.Result StreamError (ChangeStream × Disk) α) :
    stateOf (withoutJournals e r) = ((stateOf r).1.eraseJournals, e) := by
  cases r <;> rfl

/-- A run adds at most one event to the log per call. -/
theorem nextOffset_runAll_le (calls : List Call) :
    ∀ x : ChangeStream × Disk, (runAll calls x).2.1.nextOffset ≤ x.1.nextOffset + calls.length := by
  induction calls with
  | nil => intro x; simp [runAll]
  | cons call rest ih =>
    intro x
    obtain ⟨s, d⟩ := x
    have hstep := nextOffset_after_le s d call
    have := ih (stateOf (call.perform (s, d)))
    simp only [runAll, List.length_cons]
    simp only [after] at hstep
    omega

end Call

namespace ChangeStream

variable {dir : String} {ie ip : Nat}

/-- A run of calls on a kept stream, whose appended events fit frames, gives the answers of
the same run in memory, ends on the same stream without journals, and keeps the stream
kept. -/
theorem Kept.runAll (calls : List Call)
    (hfit : ∀ ev now, Call.append ev now ∈ calls → ∀ n,
      (ev.stamp n now).encode.length < 4294967296) :
    ∀ (s : ChangeStream) (d e : Disk) (recs : List ProgressRecord), s.Kept dir d ie ip recs →
      (Call.runAll calls (s.eraseJournals, e)).1 = (Call.runAll calls (s, d)).1 ∧
      (Call.runAll calls (s.eraseJournals, e)).2 =
        ((Call.runAll calls (s, d)).2.1.eraseJournals, e) ∧
      ∃ recs', (Call.runAll calls (s, d)).2.1.Kept dir (Call.runAll calls (s, d)).2.2 ie ip recs' := by
  induction calls with
  | nil => intro s d e recs hk; exact ⟨rfl, rfl, recs, hk⟩
  | cons call rest ih =>
    intro s d e recs hk
    have hfit' : ∀ ev now, Call.append ev now ∈ rest → ∀ n,
        (ev.stamp n now).encode.length < 4294967296 :=
      fun ev now h => hfit ev now (List.mem_cons_of_mem _ h)
    obtain ⟨hsim, recs', hk'⟩ := hk.step call
      (fun ev now h => hfit ev now (h ▸ List.mem_cons_self) _) e
    -- the next step starts from the state this one leaves, kept on disk and erased in memory
    obtain ⟨h1, h2, h3⟩ := ih hfit' _ _ e recs' hk'
    simp only [Call.runAll, hsim, Call.outcome_withoutJournals, Call.stateOf_withoutJournals]
    exact ⟨congrArg _ h1, h2, h3⟩

end ChangeStream

end ChangeLog
