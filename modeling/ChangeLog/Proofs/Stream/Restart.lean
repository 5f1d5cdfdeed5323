import Mathlib
import ChangeLog.Proofs.Stream.Durable
/-
  The stream on disk against the stream in memory, and across a restart.

  A data directory that is there and holds no journals opens (`ChangeStream.openDir_create`)
  on two new empty files, and the stream it gives is kept by the disk and, its journals
  erased, is the stream in memory (`ChangeStream.Kept.openDir_fresh`). A kept stream opens
  again on its disk changing nothing, with the same events and progress and no cursor
  (`ChangeStream.Kept.reopen`): every record written reads back, the events carry their
  places as offsets so no gap is found, and all progress is below the next offset so
  recovery rewinds nothing. With the run lemma of the kept stream (`ChangeStream.Kept.runAll`)
  these give `durable_stream_refines_memory_and_restarts`.
-/

namespace ChangeLog

/-! ## The journals' names -/

theorem eventsFile_name : '/' ∉ eventsFile.toList ∧ eventsFile ≠ "" ∧ eventsFile ≠ "." := by
  decide

theorem progressFile_name :
    '/' ∉ progressFile.toList ∧ progressFile ≠ "" ∧ progressFile ≠ "." := by
  decide

theorem pathEnd_eventsPath (dir : String) : Disk.pathEnd (Disk.join dir eventsFile) = .name :=
  Disk.pathEnd_join dir (show eventsFile.toList = "events.wa".toList ++ ['l'] by decide)
    (by decide) (by decide)

theorem pathEnd_progressPath (dir : String) :
    Disk.pathEnd (Disk.join dir progressFile) = .name :=
  Disk.pathEnd_join dir (show progressFile.toList = "progress.wa".toList ++ ['l'] by decide)
    (by decide) (by decide)

/-- The two journals of a data directory are two paths. -/
theorem normal_eventsPath_ne (dir : String) :
    Disk.normal (Disk.join dir eventsFile) ≠ Disk.normal (Disk.join dir progressFile) := fun h =>
  absurd (Disk.normal_join_inj dir eventsFile_name.1 eventsFile_name.2.1 eventsFile_name.2.2
    progressFile_name.1 progressFile_name.2.1 progressFile_name.2.2 h) (by decide)

/-! ## Opening the stores -/

theorem EventStore.openDir_run (dir : String) (mode : SyncMode) (d : Disk) :
    EventStore.openDir dir mode d =
      match Journal.openPath (Disk.join dir eventsFile) mode d with
      | .ok j d₁ =>
        match j.recover d₁ with
        | .ok (j', ps) d₂ =>
          match offsetGap? 0 (ps.filterMap ChangeEvent.decode) with
          | some (i, found) => .error (.offsetGap (Disk.join dir eventsFile) i found) d₂
          | none => .ok { log := { events := ps.filterMap ChangeEvent.decode }, journal := some j' } d₂
        | .error e d₂ => .error e d₂
      | .error e d₁ => .error e d₁ := by
  simp only [EventStore.openDir, bind, EStateM.bind]
  rcases Journal.openPath (Disk.join dir eventsFile) mode d with ⟨j, d₁⟩ | ⟨e, d₁⟩
  · simp only
    rcases j.recover d₁ with ⟨⟨j', ps⟩, d₂⟩ | ⟨e, d₂⟩
    · simp only
      cases offsetGap? 0 (ps.filterMap ChangeEvent.decode) <;> rfl
    · rfl
  · rfl

theorem ProgressStore.openDir_run (dir : String) (mode : SyncMode) (d : Disk) :
    ProgressStore.openDir dir mode d =
      match Journal.openPath (Disk.join dir progressFile) mode d with
      | .ok j d₁ =>
        match j.recover d₁ with
        | .ok (j', ps) d₂ =>
          .ok ⟨(ps.filterMap ProgressRecord.decode).foldl ProgressRecord.apply {}, some j', none⟩
            d₂
        | .error e d₂ => .error e d₂
      | .error e d₁ => .error e d₁ := by
  simp only [ProgressStore.openDir, bind, EStateM.bind]
  rcases Journal.openPath (Disk.join dir progressFile) mode d with ⟨j, d₁⟩ | ⟨e, d₁⟩
  · simp only
    rcases j.recover d₁ with ⟨⟨j', ps⟩, d₂⟩ | ⟨e, d₂⟩ <;> rfl
  · rfl

theorem ChangeStream.openDir_run (dir : String) (mode : SyncMode) (config : StreamConfig)
    (d : Disk) :
    ChangeStream.openDir dir mode config d =
      match EventStore.openDir dir mode d with
      | .ok es d₁ =>
        match ProgressStore.openDir dir mode d₁ with
        | .ok ps d₂ => ChangeStream.openWith es ps config d₂
        | .error e d₂ => .error (.ofStore e) d₂
      | .error e d₁ => .error (.ofStore e) d₁ := by
  simp only [ChangeStream.openDir, bind, EStateM.bind, EStateM.adaptExcept]
  rcases EventStore.openDir dir mode d with ⟨es, d₁⟩ | ⟨e, d₁⟩
  · simp only
    rcases ProgressStore.openDir dir mode d₁ with ⟨ps, d₂⟩ | ⟨e, d₂⟩ <;> rfl
  · rfl

theorem filterMap_decode_of_forall_mem {T : Type} (enc : T → Bytes) (dec : Bytes → Option T)
    (rs : List T) (h : ∀ r ∈ rs, dec (enc r) = some r) : (rs.map enc).filterMap dec = rs := by
  induction rs with
  | nil => rfl
  | cons r rest ih =>
    simp only [List.map_cons, List.filterMap_cons, h r List.mem_cons_self]
    rw [ih fun x hx => h x (List.mem_cons_of_mem r hx)]

/-- Events whose offsets count on from a place have no gap from there. -/
theorem offsetGap?_of_placed (evs : List ChangeEvent) :
    ∀ k, (∀ i (ev : ChangeEvent), evs[i]? = some ev → ev.offset = k + i) → offsetGap? k evs = none := by
  induction evs with
  | nil => intro k _; rfl
  | cons ev rest ih =>
    intro k h
    have hev : ev.offset = k := by simpa using h 0 ev rfl
    simp only [offsetGap?, hev, if_true]
    exact ih (k + 1) fun i x hx => by
      have := h (i + 1) x (by simpa using hx)
      omega

namespace EventStore

variable {dir : String} {mode : SyncMode} {d d' : Disk} {es : EventStore}

/-- The events store of a data directory with no events journal opens empty on a new file. -/
theorem openDir_fresh
    (hl : d.lookup (Disk.join dir eventsFile) = none ∨
      d.lookup (Disk.join dir eventsFile) = some .dir)
    (h : openDir dir mode d = .ok es d') :
    es = ⟨{ events := [] }, some ⟨Disk.join dir eventsFile, .file d.nextIno, 0, mode⟩⟩ ∧
      Journal.Fresh d d' (Disk.join dir eventsFile) d.nextIno := by
  rw [openDir_run] at h
  rcases ho : Journal.openPath (Disk.join dir eventsFile) mode d with ⟨j, d₁⟩ | ⟨e, d₁⟩ <;>
    rw [ho] at h
  · obtain ⟨rfl, hfresh⟩ := Journal.openPath_fresh hl (pathEnd_eventsPath dir) ho
    simp only at h
    rw [(hfresh.holds (pathEnd_eventsPath dir)).recover] at h
    cases h
    exact ⟨rfl, hfresh⟩
  · cases h

/-- The events store opens empty, on a new file, in a data directory that is there and holds
no events journal. -/
theorem openDir_create (hdirs : d.DirsAt dir) (hl : d.lookup (Disk.join dir eventsFile) = none) :
    openDir dir mode d = .ok ⟨{ events := [] }, some ⟨Disk.join dir eventsFile, .file d.nextIno, 0, mode⟩⟩ (d.createFile (Disk.join dir eventsFile)).1 := by
  have hparent := hdirs.parent_join eventsFile_name.1 eventsFile_name.2.1 eventsFile_name.2.2
  rw [openDir_run, Journal.openPath_create hparent hl (pathEnd_eventsPath dir)]
  simp only
  rw [(Journal.Holds.create hparent hl (pathEnd_eventsPath dir)).recover]
  rfl

end EventStore

namespace ProgressStore

variable {dir : String} {mode : SyncMode} {d d' : Disk} {ps : ProgressStore}

/-- The progress store of a data directory with no progress journal opens empty on a new
file. -/
theorem openDir_fresh
    (hl : d.lookup (Disk.join dir progressFile) = none ∨
      d.lookup (Disk.join dir progressFile) = some .dir)
    (h : openDir dir mode d = .ok ps d') :
    ps = ⟨{}, some ⟨Disk.join dir progressFile, .file d.nextIno, 0, mode⟩, none⟩ ∧
      Journal.Fresh d d' (Disk.join dir progressFile) d.nextIno := by
  rw [openDir_run] at h
  rcases ho : Journal.openPath (Disk.join dir progressFile) mode d with ⟨j, d₁⟩ | ⟨e, d₁⟩ <;>
    rw [ho] at h
  · obtain ⟨rfl, hfresh⟩ := Journal.openPath_fresh hl (pathEnd_progressPath dir) ho
    simp only at h
    rw [(hfresh.holds (pathEnd_progressPath dir)).recover] at h
    cases h
    exact ⟨rfl, hfresh⟩
  · cases h

/-- The progress store opens empty, on a new file, in a data directory that is there and holds
no progress journal. -/
theorem openDir_create (hdirs : d.DirsAt dir) (hl : d.lookup (Disk.join dir progressFile) = none) :
    openDir dir mode d = .ok ⟨{}, some ⟨Disk.join dir progressFile, .file d.nextIno, 0, mode⟩, none⟩ (d.createFile (Disk.join dir progressFile)).1 := by
  have hparent := hdirs.parent_join progressFile_name.1 progressFile_name.2.1 progressFile_name.2.2
  rw [openDir_run, Journal.openPath_create hparent hl (pathEnd_progressPath dir)]
  simp only
  rw [(Journal.Holds.create hparent hl (pathEnd_progressPath dir)).recover]
  rfl

end ProgressStore

/-! ## Opening the stores again -/

namespace EventStore

variable {dir : String} {mode : SyncMode} {d : Disk} {ie : Nat}

/-- The events store opens again on a journal that holds the encodings of events that carry
their places as offsets and read back, and the log holds those events. -/
theorem openDir_holds {j : Journal} {evs : List ChangeEvent}
    (hpath : j.path = Disk.join dir eventsFile) (hh : j.Holds d ie (evs.map ChangeEvent.encode))
    (hdirs : d.DirsAt (Disk.parent (Disk.join dir eventsFile)))
    (hdec : ∀ ev ∈ evs, ChangeEvent.decode ev.encode = some ev)
    (hplaced : ∀ i (ev : ChangeEvent), evs[i]? = some ev → ev.offset = i) :
    openDir dir mode d =
      .ok ⟨{ events := evs }, some ⟨Disk.join dir eventsFile, .file ie, (d.blob ie).length, mode⟩⟩
        d := by
  obtain ⟨hopen, hh'⟩ := hh.reopen (hpath ▸ hdirs) mode
  rw [hpath] at hopen hh'
  have hgap : offsetGap? 0 evs = none := offsetGap?_of_placed evs 0 (by simpa using hplaced)
  rw [openDir_run, hopen]
  simp only
  rw [hh'.recover]
  simp only [filterMap_decode_of_forall_mem _ _ evs hdec, hgap]

end EventStore

namespace ProgressStore

variable {dir : String} {mode : SyncMode} {d : Disk} {ip : Nat}

/-- The progress store opens again on a journal that holds the encodings of records that
read back, and its progress is their fold. -/
theorem openDir_holds {j : Journal} {recs : List ProgressRecord}
    (hpath : j.path = Disk.join dir progressFile)
    (hh : j.Holds d ip (recs.map ProgressRecord.encode))
    (hdirs : d.DirsAt (Disk.parent (Disk.join dir progressFile)))
    (hdec : ∀ r ∈ recs, ProgressRecord.decode r.encode = some r) :
    openDir dir mode d =
      .ok ⟨recs.foldl ProgressRecord.apply {},
        some ⟨Disk.join dir progressFile, .file ip, (d.blob ip).length, mode⟩, none⟩ d := by
  obtain ⟨hopen, hh'⟩ := hh.reopen (hpath ▸ hdirs) mode
  rw [hpath] at hopen hh'
  rw [openDir_run, hopen]
  simp only
  rw [hh'.recover]
  simp only [filterMap_decode_of_forall_mem _ _ recs hdec]

end ProgressStore

namespace AckTracker

/-- Recovery over entries all below the next offset rewinds nothing. -/
theorem recoverEntries_of_below (n : Nat) (xs : List (ConsumerId × Nat)) :
    ∀ (acc : ProgressMap) (x : ProgressStore × Disk), (∀ e ∈ xs, e.2 < n) →
      ∃ m, recoverEntries n xs acc x = .ok m x := by
  induction xs with
  | nil => intro acc x _; exact ⟨acc, rfl⟩
  | cons e rest ih =>
    intro acc x h
    obtain ⟨c, o⟩ := e
    have ho : o < n := h (c, o) List.mem_cons_self
    simp only [recoverEntries, ho, if_true]
    exact ih _ x fun e he => h e (List.mem_cons_of_mem _ he)

/-- Recovery of a store whose progress is all below the next offset changes nothing. -/
theorem recover_of_below {st : ProgressStore} {n : Nat} (hb : st.map.Below n) (d : Disk) :
    ∃ m, recover n (st, d) = .ok m (st, d) := by
  simp only [recover, bind, EStateM.bind, Within.current_apply]
  exact recoverEntries_of_below n _ {} (st, d) hb

end AckTracker

/-- Recovery of a store that holds no progress takes nothing and changes nothing. -/
theorem AckTracker.recover_empty {st : ProgressStore} (h : st.map = {}) (n : Nat) (d : Disk) :
    recover n (st, d) = .ok {} (st, d) := by
  simp only [recover, bind, EStateM.bind, Within.current_apply, ProgressStore.load,
    ProgressMap.toList, h]
  rfl

theorem ChangeStream.openWith_of_recover {es : EventStore} {ps ps' : ProgressStore}
    {config : StreamConfig} {d d' : Disk} {m : ProgressMap}
    (h : AckTracker.recover es.nextOffset (ps, d) = .ok m (ps', d')) :
    ChangeStream.openWith es ps config d = .ok ⟨es, ⟨ps', m⟩, {}, config⟩ d' := by
  simp only [ChangeStream.openWith, Within.run', h]

/-- A stream opens over stores whose progress is all below the next offset, and its tracker
takes the store's progress as it is. -/
theorem ChangeStream.openWith_of_below {es : EventStore} {ps : ProgressStore}
    {config : StreamConfig} {d : Disk} (hs : ps.map.Sorted) (hb : ps.map.Below es.nextOffset) :
    ChangeStream.openWith es ps config d = .ok ⟨es, ⟨ps, ps.map⟩, {}, config⟩ d := by
  obtain ⟨m, hm⟩ := AckTracker.recover_of_below hb d
  rw [openWith_of_recover hm, show m = ps.map from (AckTracker.Coherent.recover hs hm).agrees]

/-! ## The stream's openings -/

namespace ChangeStream

variable {dir : String}

/-- A stream opens on a data directory that is there and holds no journals. -/
theorem openDir_create {mode : SyncMode} {config : StreamConfig} {d : Disk}
    (hdirs : d.DirsAt dir) (hE : d.lookup (Disk.join dir eventsFile) = none)
    (hP : d.lookup (Disk.join dir progressFile) = none) :
    ∃ s d', openDir dir mode config d = .ok s d' := by
  -- the new events file is not the progress journal's name, which still holds nothing
  have hP₁ : (d.createFile (Disk.join dir eventsFile)).1.lookup (Disk.join dir progressFile) =
      none := by
    rw [Disk.lookup_createFile_of_ne _ _ (normal_eventsPath_ne dir).symm, hP]
  have hdirs₁ := hdirs.keeps (Disk.keeps_createFile hE)
  rw [openDir_run, EventStore.openDir_create hdirs hE]
  simp only
  rw [ProgressStore.openDir_create hdirs₁ hP₁]
  simp only
  rw [openWith_of_recover (AckTracker.recover_empty rfl _ _)]
  exact ⟨_, _, rfl⟩

/-- A stream opened on a data directory that holds no journals is kept by the disk, on two
new files, and without its journals it is the stream in memory. -/
theorem Kept.openDir_fresh {mode : SyncMode} {config : StreamConfig} {d₀ d₁ : Disk}
    {s₀ : ChangeStream} (hfree : d₀.limited = false)
    (hE : d₀.lookup (Disk.join dir eventsFile) = none)
    (hP : d₀.lookup (Disk.join dir progressFile) = none)
    (h : openDir dir mode config d₀ = .ok s₀ d₁) :
    s₀.Kept dir d₁ d₀.nextIno (d₀.nextIno + 1) [] ∧ s₀.eraseJournals = inMemory config := by
  rw [openDir_run] at h
  rcases hev : EventStore.openDir dir mode d₀ with ⟨es, dA⟩ | ⟨err, dA⟩ <;> rw [hev] at h
  case error => cases h
  obtain ⟨rfl, hfE⟩ := EventStore.openDir_fresh (.inl hE) hev
  simp only at h
  -- opening the events journal made directories only, so the progress journal has no file
  have hPA := hfE.dirs _ (normal_eventsPath_ne dir).symm hP
  rcases hpr : ProgressStore.openDir dir mode dA with ⟨ps, dB⟩ | ⟨err, dB⟩ <;> rw [hpr] at h
  case error => cases h
  obtain ⟨rfl, hfP⟩ := ProgressStore.openDir_fresh hPA hpr
  simp only at h
  rw [openWith_of_recover (AckTracker.recover_empty rfl _ _)] at h
  cases h
  have hino : dA.nextIno = d₀.nextIno + 1 := hfE.nextIno
  have hne : d₀.nextIno ≠ dA.nextIno := by omega
  rw [← hino]
  refine ⟨⟨?_, rfl, ⟨rfl, ProgressMap.sorted_empty⟩, ?_, ?_, ?_, hne,
    ⟨_, rfl, rfl, (hfE.holds (pathEnd_eventsPath dir)).fresh hfP hne⟩,
    ⟨_, rfl, rfl, hfP.holds (pathEnd_progressPath dir)⟩, rfl, ?_,
    hfE.dirsAt.keeps hfP.keeps, hfP.dirsAt⟩, rfl⟩
  · rw [hfP.limited, hfE.limited, hfree]
  -- the log and the progress are empty
  · intro e he
    cases he
  · intro i ev hi
    simp at hi
  · simp
  · simp

/-- A kept stream opens again on its disk, changing nothing, and the stream opened is kept
over the same files and records: it holds the same events and progress, in the configuration
asked for, open and with no cursor. -/
theorem Kept.reopen_kept {s : ChangeStream} {d : Disk} {ie ip : Nat} {recs : List ProgressRecord}
    (hk : s.Kept dir d ie ip recs) (hn : s.nextOffset < 2 ^ 64) (mode : SyncMode)
    (config : StreamConfig) :
    ∃ s', openDir dir mode config d = .ok s' d ∧ s'.Kept dir d ie ip recs ∧
      s'.events.log.events = s.events.log.events ∧ s'.acks.acked = s.acks.acked ∧
      s'.cursors = {} ∧ s'.config = config ∧ s'.isClosed = false := by
  obtain ⟨je, hje, hpe, hhe⟩ := hk.events
  obtain ⟨jp, hjp, hpp, hhp⟩ := hk.progress
  -- every offset written is below the next one, so it fits its 64 bits and reads back
  have hdecE : ∀ ev ∈ s.events.log.events, ChangeEvent.decode ev.encode = some ev := by
    intro ev hev
    obtain ⟨i, hi⟩ := List.mem_iff_getElem?.1 hev
    have hlt : i < s.nextOffset := (List.getElem?_eq_some_iff.1 hi).1
    have hfit := (hhe.fit _ (List.mem_map_of_mem hev)).2
    exact ChangeEvent.decode_encode ev (by rw [hk.placed i ev hi]; omega) (by omega)
  have hdecP : ∀ r ∈ recs, ProgressRecord.decode r.encode = some r := by
    intro r hr
    obtain ⟨c, o, rfl, ho⟩ := hk.acks r hr
    exact ProgressRecord.decode_encode _ (show o < 2 ^ 64 by omega)
  have hsorted : (recs.foldl ProgressRecord.apply {}).Sorted := by
    rw [hk.folded, ← hk.coherent.agrees]
    exact hk.coherent.sorted
  have hbelow : (recs.foldl ProgressRecord.apply {}).Below s.nextOffset := by
    rw [hk.folded, ← hk.coherent.agrees]
    exact hk.below
  -- the journals opened again hold what the old ones held
  obtain ⟨-, hhe'⟩ := hhe.reopen (hpe ▸ hk.eventsDirs) mode
  obtain ⟨-, hhp'⟩ := hhp.reopen (hpp ▸ hk.progressDirs) mode
  rw [hpe] at hhe'
  rw [hpp] at hhp'
  rw [openDir_run, EventStore.openDir_holds hpe hhe hk.eventsDirs hdecE hk.placed]
  simp only
  -- recovery rewinds nothing, so the tracker takes the store's progress
  rw [ProgressStore.openDir_holds hpp hhp hk.progressDirs hdecP]
  simp only
  rw [openWith_of_below hsorted hbelow]
  refine ⟨_, rfl, ⟨hk.free, rfl, ⟨rfl, hsorted⟩, hbelow, hk.placed, hk.stamped, hk.apart,
    ⟨_, rfl, rfl, hhe'⟩, ⟨_, rfl, rfl, hhp'⟩, rfl, hk.acks, hk.eventsDirs, hk.progressDirs⟩,
    rfl, ?_, rfl, rfl, rfl⟩
  rw [hk.folded, hk.coherent.agrees]

/-- A kept stream opens again on its disk, changing nothing: the log holds the same events,
the tracker the same progress, and no cursor is open. -/
theorem Kept.reopen {s : ChangeStream} {d : Disk} {ie ip : Nat} {recs : List ProgressRecord}
    (hk : s.Kept dir d ie ip recs) (hn : s.nextOffset < 2 ^ 64) (mode : SyncMode)
    (config : StreamConfig) :
    ∃ s', openDir dir mode config d = .ok s' d ∧ s'.events.log.events = s.events.log.events ∧
      s'.acks.acked = s.acks.acked ∧ s'.cursors = {} := by
  obtain ⟨s', hopen, -, hevents, hacked, hcursors, -⟩ := hk.reopen_kept hn mode config
  exact ⟨s', hopen, hevents, hacked, hcursors⟩

end ChangeStream

/-! ## The stream on disk against the stream in memory -/

/-- A stream opened on a data directory that holds no journals, on a disk with room, answers
every run of calls as the stream in memory with the same configuration does, when the
events it appends fit frames and the run is shorter than 2^64 calls, and ends as that
stream with journals. Closed and opened again on the same directory, it holds the same
events, all fields kept and ids verified, and the same progress of every consumer, and
knows no cursor. -/
theorem durable_stream_refines_memory_and_restarts (dir : String) (mode : SyncMode)
    (config : StreamConfig) (calls : List Call) {d₀ d₁ : Disk} {s₀ : ChangeStream}
    (hfree : d₀.limited = false)
    (hE : d₀.lookup (Disk.join dir eventsFile) = none)
    (hP : d₀.lookup (Disk.join dir progressFile) = none)
    (hopen : ChangeStream.openDir dir mode config d₀ = .ok s₀ d₁)
    (hfit : ∀ ev now, Call.append ev now ∈ calls → ∀ n,
      (ev.stamp n now).encode.length < 4294967296)
    (hlen : calls.length < 2 ^ 64) (e : Disk) :
    let run := Call.runAll calls (s₀, d₁)
    let closed := (stateOf (Call.close.perform run.2)).2
    (Call.runAll calls (ChangeStream.inMemory config, e)).1 = run.1 ∧
    (Call.runAll calls (ChangeStream.inMemory config, e)).2.1 = run.2.1.eraseJournals ∧
    ∃ s₂, ChangeStream.openDir dir mode config closed = .ok s₂ closed ∧
      s₂.nextOffset = run.2.1.nextOffset ∧
      s₂.events.log.events = run.2.1.events.log.events ∧
      (∀ ev ∈ s₂.events.log.events, ev.verifyId = true) ∧
      (∀ c, s₂.acks.progress c = run.2.1.acks.progress c) ∧
      ∀ id, s₂.cursors.find? id = none := by
  intro run closed
  obtain ⟨hk₀, herase⟩ := ChangeStream.Kept.openDir_fresh hfree hE hP hopen
  obtain ⟨hanswers, hend, recs, hk⟩ := ChangeStream.Kept.runAll calls hfit s₀ d₁ e [] hk₀
  rw [herase] at hanswers hend
  -- closing keeps the stream kept, with its log and its progress
  obtain ⟨-, recs', hkc⟩ := hk.step .close (fun _ _ h => by cases h) e
  obtain ⟨st, hst, hlog⟩ := Call.after_close run.2.1 run.2.2
  have hstart : s₀.nextOffset = 0 := by
    rw [← ChangeStream.eraseJournals_nextOffset, herase]
    rfl
  have hnext : (Call.close.after run.2.1 run.2.2).nextOffset = run.2.1.nextOffset := by
    simp [hst, ChangeStream.nextOffset, EventStore.nextOffset, EventLog.nextOffset, hlog]
  have hbound : run.2.1.nextOffset < 2 ^ 64 := by
    have := Call.nextOffset_runAll_le calls (s₀, d₁)
    simp only [hstart, Nat.zero_add] at this
    exact Nat.lt_of_le_of_lt this hlen
  obtain ⟨s₂, hreopen, hevents, hacked, hcursors⟩ := hkc.reopen (hnext ▸ hbound) mode config
  -- closing marks the log closed and keeps its events and the tracker
  rw [hst] at hevents hacked
  simp only at hevents hacked
  rw [hlog] at hevents
  refine ⟨hanswers, by rw [hend], s₂, hreopen, ?_, hevents, ?_, ?_, ?_⟩
  · simp only [ChangeStream.nextOffset, EventStore.nextOffset, EventLog.nextOffset, hevents]
  · rw [hevents]
    exact hk.stamped
  · intro c
    simp only [AckTracker.progress, hacked]
  · intro id
    rw [hcursors]
    rfl

/-- The record of a stamped event: its fixed fields take 80 bytes, and its texts and images
their own lengths. -/
theorem NewEvent.encode_stamp_length (e : NewEvent) (n : Nat) (t : Instant) :
    (e.stamp n t).encode.length = 80 + e.eventType.utf8ByteSize + e.before.length +
      e.after.length + e.source.utf8ByteSize + (Rfc3339.format .letter t).utf8ByteSize := by
  simp only [NewEvent.stamp, ChangeEvent.encode, List.length_append, Le.u64, Le.encode_length,
    Binary.length_text, Binary.length_bytes, EventId.size]
  omega

/-- A stream opened on "data", the one directory of a disk, takes an event and an
acknowledgment of it as the stream in memory does, and opens again with both. -/
theorem durable_stream_on_data_directory :
    ∃ s₀ d₁, ChangeStream.openDir "data" .everyWrite {} { entries := [("data", .dir)] } =
        .ok s₀ d₁ ∧
      let calls := [Call.append ⟨"row.insert", [], [1], "orders"⟩ Instant.epoch,
        Call.acknowledge ⟨"indexer", by decide⟩ 0]
      let run := Call.runAll calls (s₀, d₁)
      let closed := (stateOf (Call.close.perform run.2)).2
      (Call.runAll calls (ChangeStream.inMemory {}, {})).1 = run.1 ∧
      (Call.runAll calls (ChangeStream.inMemory {}, {})).2.1 = run.2.1.eraseJournals ∧
      ∃ s₂, ChangeStream.openDir "data" .everyWrite {} closed = .ok s₂ closed ∧
        s₂.nextOffset = run.2.1.nextOffset ∧
        s₂.events.log.events = run.2.1.events.log.events ∧
        (∀ ev ∈ s₂.events.log.events, ev.verifyId = true) ∧
        (∀ c, s₂.acks.progress c = run.2.1.acks.progress c) ∧
        ∀ id, s₂.cursors.find? id = none := by
  have hE : ({ entries := [("data", .dir)] } : Disk).lookup (Disk.join "data" eventsFile) =
      none := by
    rw [Disk.lookup, Disk.normal,
      Disk.components_join _ eventsFile_name.1 eventsFile_name.2.1 eventsFile_name.2.2]
    decide
  have hP : ({ entries := [("data", .dir)] } : Disk).lookup (Disk.join "data" progressFile) =
      none := by
    rw [Disk.lookup, Disk.normal,
      Disk.components_join _ progressFile_name.1 progressFile_name.2.1 progressFile_name.2.2]
    decide
  have hdirs : ({ entries := [("data", .dir)] } : Disk).DirsAt "data" := by
    intro k hk
    decide +revert
  obtain ⟨s₀, d₁, hopen⟩ : ∃ s d', ChangeStream.openDir "data" .everyWrite {}
      { entries := [("data", .dir)] } = .ok s d' := ChangeStream.openDir_create hdirs hE hP
  refine ⟨s₀, d₁, hopen, durable_stream_refines_memory_and_restarts "data" .everyWrite {} _ rfl
    hE hP hopen ?_ (by decide) {}⟩
  -- the one event appended is small enough for a frame at every offset
  intro ev now h n
  simp only [List.mem_cons, Call.append.injEq, reduceCtorEq, List.not_mem_nil, or_false] at h
  obtain ⟨rfl, rfl⟩ := h
  rw [NewEvent.encode_stamp_length]
  decide

end ChangeLog
