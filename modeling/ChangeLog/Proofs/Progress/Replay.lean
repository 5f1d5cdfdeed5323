import Mathlib
import ChangeLog.Proofs.Journal.Clean
import ChangeLog.Proofs.Store.Contract
/-
  The journal of a progress store replays to the progress the store holds.

  A store opened on a data directory replays its journal (`ProgressStore.Replays`): the
  journal is clean on its file, and the progress held is the fold of the records its payloads
  read back as. One call keeps that (`Replays.step`), in one of three ways
  (`Replays.perform_cases`): an acknowledgment that raises nothing answers at once and
  changes nothing; any other call appends the one frame of its record and applies the
  record, or fails, which it does only under faults, and changes no file. What a call
  does to the progress and to the file is said once, as `ProgressStore.Meets`, and proved of
  every call by `Replays.meets`. A store that replays its journal opens again to the same
  progress, writing nothing (`Replays.reopen`), so the progress held after any run of calls
  is what the directory gives back, listed in the order of the consumers' names.

  Main statement: `progress_replays_live_state`.
-/

namespace ChangeLog

namespace Disk

theorem fileAt?_of_lookup {d : Disk} {path : String} {ino : Nat}
    (h : d.lookup path = some (.file ino)) : d.fileAt? path = some (d.blob ino) := by
  simp only [fileAt?, h]

end Disk

/-- A record's bytes fit a frame: a consumer's name is short. -/
theorem ProgressRecord.encode_fits (r : ProgressRecord) :
    0 < r.encode.length ∧ r.encode.length < 4294967296 := by
  cases r with
  | ack c o => exact ack_encode_fits c o
  | rewind c o =>
    have := ConsumerId.utf8ByteSize_le c
    cases o <;> simp only [encode, Binary.optU64, List.length_append, List.length_cons,
      List.length_nil, Le.u32, Le.u64, Le.encode_length, Binary.length_text] <;> omega

namespace ProgressMap

theorem get?_record_of_ne (m : ProgressMap) {c c' : ConsumerId} (o : Nat) (h : c'.raw ≠ c.raw) :
    (m.record c o).get? c' = m.get? c' :=
  get?_insert_of_ne _ _ _ _ (Ne.symm h)

theorem Sorted.foldl {m : ProgressMap} (h : m.Sorted) (rs : List ProgressRecord) :
    (rs.foldl ProgressRecord.apply m).Sorted := by
  induction rs generalizing m with
  | nil => exact h
  | cons r rest ih => exact ih (h.apply r)

end ProgressMap

namespace ProgressStore

/-- A change of progress as a call on the store: an acknowledgment is recorded, a rewind sets
the consumer's offset or forgets the consumer. -/
def perform : ProgressRecord → Within ProgressStore StoreError Unit
  | .ack c o => record c o
  | .rewind c o => rewind c o

/-- What one call does, read off the progress and the file at the journal's path. An
acknowledgment that raises nothing answers at once and changes nothing. Any other call, on a
disk with room, is done and appends exactly its record's frame to the file. A call that is
done leaves the larger of the old and new offset for an acknowledgment and exactly the offset
given, or none, for a rewind, and every other consumer's progress as it was. A call that fails
changes neither the progress nor the file. -/
def Meets (path : String) (s : ProgressStore) (d : Disk) :
    ProgressRecord → Except StoreError Unit → ProgressStore × Disk → Prop
  | .ack c o, out, (s', d') =>
    (¬ Raises s.map c o → out = .ok () ∧ s' = s ∧ d' = d) ∧
    (Raises s.map c o → d.limited = false → out = .ok () ∧
      d'.fileAt? path = (d.fileAt? path).map (· ++ Frame.encode (ProgressRecord.ack c o).encode)) ∧
    (out = .ok () → s'.map.get? c = some ((s.map.get? c).elim o (max · o)) ∧
      ∀ c' : ConsumerId, c'.raw ≠ c.raw → s'.map.get? c' = s.map.get? c') ∧
    (∀ e, out = .error e → s'.map = s.map ∧ d'.fileAt? path = d.fileAt? path)
  | .rewind c o, out, (s', d') =>
    (d.limited = false → out = .ok () ∧
      d'.fileAt? path = (d.fileAt? path).map (· ++ Frame.encode (ProgressRecord.rewind c o).encode)) ∧
    (out = .ok () → s'.map.get? c = o ∧
      ∀ c' : ConsumerId, c'.raw ≠ c.raw → s'.map.get? c' = s.map.get? c') ∧
    (∀ e, out = .error e → s'.map = s.map ∧ d'.fileAt? path = d.fileAt? path)

/-- A store replays its journal, at a path and on a file, when the journal is clean there and
the progress held is the fold of the records its payloads read back as, with no limit of
writes set and the directories above the path in place. -/
structure Replays (s : ProgressStore) (d : Disk) (path : String) (ino : Nat) (ps : List Bytes) :
    Prop where
  journal : ∃ j, s.journal = some j ∧ j.path = path ∧ j.Clean d ino ps
  folded : s.map = (ps.filterMap ProgressRecord.decode).foldl ProgressRecord.apply {}
  unlimited : s.writesLeft = none
  dirs : d.DirsAt (Disk.parent path)

section Replays

variable {s : ProgressStore} {d : Disk} {path : String} {ino : Nat} {ps : List Bytes}

theorem Replays.sorted (h : s.Replays d path ino ps) : s.map.Sorted := by
  rw [h.folded]
  exact ProgressMap.sorted_empty.foldl _

theorem Replays.fileAt_setBlob (h : s.Replays d path ino ps) (bs : Bytes) :
    (d.setBlob ino bs).fileAt? path = some bs := by
  obtain ⟨j, -, rfl, hc⟩ := h.journal
  rw [Disk.fileAt?_of_lookup (by rw [Disk.lookup_setBlob]; exact hc.onFile.lookup),
    Disk.blob_setBlob_self]

theorem Replays.fileAt (h : s.Replays d path ino ps) : d.fileAt? path = some (d.blob ino) := by
  obtain ⟨j, -, rfl, hc⟩ := h.journal
  exact Disk.fileAt?_of_lookup hc.onFile.lookup

/-- A store with a journal skips an acknowledgment that raises nothing. -/
theorem record_skip {c : ConsumerId} {o : Nat} (hj : s.journal.isSome = true)
    (hr : ¬ Raises s.map c o) : record c o (s, d) = .ok () (s, d) := by
  obtain ⟨cur, hc, hle⟩ := not_raises_iff.1 hr
  have hd : decide (o > cur) = false := by simpa using hle
  simp only [record, bind, EStateM.bind, Within.current_apply, hc, hd, hj, Bool.not_false,
    Bool.and_self, if_true, pure, EStateM.pure]

/-- On a disk with room, a write appends the record's frame to the clean journal and then
changes the progress. -/
theorem Replays.write (h : s.Replays d path ino ps) (hfree : d.limited = false)
    (r : ProgressRecord) (f : ProgressMap → ProgressMap) :
    ∃ j', j'.path = path ∧
      j'.Clean (d.setBlob ino (d.blob ino ++ Frame.encode r.encode)) ino (ps ++ [r.encode]) ∧
      (do spend; log r; change f : Within ProgressStore StoreError Unit) (s, d) =
        .ok () ({ s with journal := some j', map := f s.map },
          d.setBlob ino (d.blob ino ++ Frame.encode r.encode)) := by
  obtain ⟨j, hj, hp, hc⟩ := h.journal
  obtain ⟨happ, hc'⟩ := hc.append hfree r.encode_fits
  refine ⟨{ j with offset := j.offset + (Frame.encode r.encode).length }, hp, hc', ?_⟩
  simp only [bind, EStateM.bind, spend, Within.current_apply, h.unlimited, log, hj, Within.disk,
    happ, Within.replace_apply, change, pure, EStateM.pure]

/-- A write appends the record's frame to the clean journal and then changes the progress, or
it fails, which happens only under faults, and changes no file and not the store. -/
theorem Replays.write_cases (h : s.Replays d path ino ps) (r : ProgressRecord)
    (f : ProgressMap → ProgressMap) :
    (∃ j', j'.path = path ∧
      j'.Clean (d.setBlob ino (d.blob ino ++ Frame.encode r.encode)) ino (ps ++ [r.encode]) ∧
      (do spend; log r; change f : Within ProgressStore StoreError Unit) (s, d) =
        .ok () ({ s with journal := some j', map := f s.map },
          d.setBlob ino (d.blob ino ++ Frame.encode r.encode))) ∨
    (d.limited = true ∧ ∃ e d', (do spend; log r; change f : Within ProgressStore StoreError Unit)
      (s, d) = .error e (s, d') ∧ d.SameFiles d') := by
  obtain ⟨j, hj, hp, hc⟩ := h.journal
  rcases ha : j.append r.encode d with ⟨⟨j', p⟩, d'⟩ | ⟨e, d'⟩
  · -- the whole frame is at the end of the file
    obtain ⟨hr, rfl⟩ := Journal.append_ok_file hc.onFile.handle ha
    cases hr
    refine .inl ⟨{ j with offset := j.offset + (Frame.encode r.encode).length }, hp,
      hc.grow r.encode_fits, ?_⟩
    simp only [bind, EStateM.bind, spend, Within.current_apply, h.unlimited, log, hj, Within.disk,
      ha, Within.replace_apply, change, pure, EStateM.pure]
  · -- with no faults the append would have gone through
    refine .inr ⟨?_, e, d', ?_, hc.append_error ha⟩
    · cases hlim : d.limited
      · rw [(hc.append hlim r.encode_fits).1] at ha
        cases ha
      · rfl
    · simp only [bind, EStateM.bind, spend, Within.current_apply, h.unlimited, log, hj,
        Within.disk, ha, pure, EStateM.pure]

/-- The three ways a call goes on a store that replays its journal. -/
theorem Replays.perform_cases (h : s.Replays d path ino ps) (r : ProgressRecord) :
    (∃ c o, r = .ack c o ∧ ¬ Raises s.map c o ∧ perform r (s, d) = .ok () (s, d)) ∨
    ((∀ c o, r = .ack c o → Raises s.map c o) ∧ ∃ j', j'.path = path ∧
      j'.Clean (d.setBlob ino (d.blob ino ++ Frame.encode r.encode)) ino (ps ++ [r.encode]) ∧
      perform r (s, d) = .ok () ({ s with journal := some j', map := ProgressRecord.apply s.map r },
        d.setBlob ino (d.blob ino ++ Frame.encode r.encode))) ∨
    ((∀ c o, r = .ack c o → Raises s.map c o) ∧ d.limited = true ∧
      ∃ e d', perform r (s, d) = .error e (s, d') ∧ d.SameFiles d') := by
  have hj : s.journal.isSome = true := by
    obtain ⟨j, hj, -⟩ := h.journal
    rw [hj]
    rfl
  cases r with
  | ack c o =>
    by_cases hr : Raises s.map c o
    · have hw : ∀ c' o', ProgressRecord.ack c o = .ack c' o' → Raises s.map c' o' := by
        rintro c' o' ⟨⟩
        exact hr
      rcases h.write_cases (.ack c o) (·.record c o) with ⟨j', hp, hc, hrun⟩ |
          ⟨hlim, e, d', hrun, hs⟩
      · exact .inr (.inl ⟨hw, j', hp, hc, by rw [perform, record_raise hr, hrun]; rfl⟩)
      · exact .inr (.inr ⟨hw, hlim, e, d', by rw [perform, record_raise hr, hrun], hs⟩)
    · exact .inl ⟨c, o, rfl, hr, record_skip hj hr⟩
  | rewind c o =>
    have hw : ∀ c' o', ProgressRecord.rewind c o = .ack c' o' → Raises s.map c' o' := by
      rintro c' o' ⟨⟩
    rcases h.write_cases (.rewind c o) (·.rewind c o) with ⟨j', hp, hc, hrun⟩ |
        ⟨hlim, e, d', hrun, hs⟩
    · exact .inr (.inl ⟨hw, j', hp, hc, hrun⟩)
    · exact .inr (.inr ⟨hw, hlim, e, d', hrun, hs⟩)

/-- Every call keeps the store replaying its journal, with the journal's payloads grown by
what the call wrote, which is its record's bytes or nothing, when the record's offsets fit in
64 bits. -/
theorem Replays.step (h : s.Replays d path ino ps) (r : ProgressRecord) (hr : r.Fits) :
    ∃ qs, (∀ q ∈ qs, q = r.encode) ∧
      (stateOf (perform r (s, d))).1.Replays (stateOf (perform r (s, d))).2 path ino (ps ++ qs) := by
  rcases h.perform_cases r with ⟨c, o, -, -, hrun⟩ | ⟨-, j', hp, hc, hrun⟩ |
      ⟨-, -, e, d', hrun, hs⟩
  · rw [hrun]
    exact ⟨[], fun _ hq => (List.not_mem_nil hq).elim, by simpa using h⟩
  · rw [hrun]
    refine ⟨[r.encode], by simp, ⟨⟨j', rfl, hp, hc⟩, ?_, h.unlimited,
      h.dirs.keeps fun _ _ => rfl⟩⟩
    -- the new payload reads back as the record, which the fold applies last
    show ProgressRecord.apply s.map r = _
    rw [List.filterMap_append, List.filterMap_cons, ProgressRecord.decode_encode r hr,
      List.filterMap_nil, List.foldl_append, ← h.folded]
    rfl
  · rw [hrun]
    obtain ⟨j, hj, hp, hc⟩ := h.journal
    refine ⟨[], fun _ hq => (List.not_mem_nil hq).elim, ⟨⟨j, hj, hp, ?_⟩,
      by rw [List.append_nil]; exact h.folded, h.unlimited, h.dirs.keeps fun q _ => hs.lookup q⟩⟩
    rw [List.append_nil]
    exact hc.transfer (hs.lookup _) (hs.blobs ino)

/-- A call on a store that replays its journal writes to no file but the journal's, and binds
no name. -/
theorem Replays.frame (h : s.Replays d path ino ps) (r : ProgressRecord) :
    (∀ p, (stateOf (perform r (s, d))).2.lookup p = d.lookup p) ∧
      ∀ i, i ≠ ino → (stateOf (perform r (s, d))).2.blob i = d.blob i := by
  rcases h.perform_cases r with ⟨c, o, -, -, hrun⟩ | ⟨-, j', -, -, hrun⟩ |
      ⟨-, -, e, d', hrun, hs⟩
  · rw [hrun]
    exact ⟨fun _ => rfl, fun _ _ => rfl⟩
  · rw [hrun]
    exact ⟨fun _ => rfl, fun i hi => Disk.blob_setBlob_of_ne _ _ hi⟩
  · rw [hrun]
    exact ⟨hs.lookup, fun i _ => hs.blobs i⟩

/-- Every call on a store that replays its journal does what `Meets` says. -/
theorem Replays.meets (h : s.Replays d path ino ps) (r : ProgressRecord) :
    Meets path s d r (outcome (perform r (s, d))) (stateOf (perform r (s, d))) := by
  rcases h.perform_cases r with ⟨c, o, rfl, hr, hrun⟩ | ⟨hw, j', -, -, hrun⟩ |
      ⟨hw, hlim, e, d', hrun, hs⟩
  · -- skipped: the progress held is already at least the offset
    rw [hrun]
    obtain ⟨cur, hc, hle⟩ := not_raises_iff.1 hr
    refine ⟨fun _ => ⟨rfl, rfl, rfl⟩, fun h' => absurd h' hr, fun _ => ⟨?_, fun _ _ => rfl⟩,
      fun _ h' => by cases h'⟩
    simp [hc, Nat.max_eq_left hle]
  · rw [hrun]
    cases r with
    | ack c o =>
      dsimp only [Meets, outcome, stateOf]
      rw [h.fileAt, h.fileAt_setBlob]
      refine ⟨fun h' => absurd (hw c o rfl) h', fun _ _ => ⟨rfl, rfl⟩,
        fun _ => ⟨ProgressMap.get?_record _ _ _, fun c' hne => ?_⟩, fun _ h' => by cases h'⟩
      exact ProgressMap.get?_record_of_ne _ _ hne
    | rewind c o =>
      dsimp only [Meets, outcome, stateOf]
      rw [h.fileAt, h.fileAt_setBlob]
      refine ⟨fun _ => ⟨rfl, rfl⟩, fun _ => ⟨h.sorted.get?_rewind c o, fun c' hne => ?_⟩,
        fun _ h' => by cases h'⟩
      exact ProgressMap.get?_rewind_of_ne _ _ (Ne.symm hne)
  · -- failed: only under faults, and no change to the progress or the file
    have hroom : d.limited ≠ false := by rw [hlim]; decide
    rw [hrun]
    cases r with
    | ack c o =>
      dsimp only [Meets, outcome, stateOf]
      exact ⟨fun h' => absurd (hw c o rfl) h', fun _ hfree => absurd hfree hroom,
        (fun h' => by cases h'), fun _ _ => ⟨rfl, hs.fileAt? path⟩⟩
    | rewind c o =>
      dsimp only [Meets, outcome, stateOf]
      exact ⟨fun hfree => absurd hfree hroom, (fun h' => by cases h'),
        fun _ _ => ⟨rfl, hs.fileAt? path⟩⟩

end Replays

section Directory

variable {dir : String} {mode : SyncMode} {d₀ d : Disk} {s : ProgressStore} {ino : Nat}
  {ps : List Bytes}

/-- A store opened on a data directory replays its journal. The opening keeps every name there
was and every other file, and the bytes of a file it did not have to cut. -/
theorem openDir_replays (hopen : openDir dir mode d₀ = .ok s d) :
    ∃ ino ps, s.Replays d (Disk.join dir progressFile) ino ps ∧ (d₀.Numbered → d.Numbered) ∧
      Disk.Keeps d₀ d ∧ ∀ i, i < d₀.nextIno → (i ≠ ino ∨ ∃ qs, Frame.Whole (d₀.blob i) qs) →
        d.blob i = d₀.blob i := by
  rw [openDir_run] at hopen
  rcases ho : Journal.openPath (Disk.join dir progressFile) mode d₀ with ⟨j, d₁⟩ | ⟨e, d₁⟩ <;>
    rw [ho] at hopen
  · simp only at hopen
    rcases hr : j.recover d₁ with ⟨⟨j', ps⟩, d₂⟩ | ⟨e, d₂⟩ <;> rw [hr] at hopen
    · cases hopen
      obtain ⟨ino, hc, hp, hn, hk, hdirs, -, hblob⟩ :=
        Journal.openPath_recover (pathEnd_progressPath dir) ho hr
      exact ⟨ino, ps, ⟨⟨j', rfl, hp, hc⟩, rfl, rfl, hdirs⟩, hn, hk, hblob⟩
    · cases hopen
  · cases hopen

/-- A store that replays its journal in a data directory opens again to the same progress,
writing nothing. -/
theorem Replays.reopen (h : s.Replays d (Disk.join dir progressFile) ino ps) (mode : SyncMode) :
    openDir dir mode d =
      .ok ⟨s.map, some ⟨Disk.join dir progressFile, .file ino, (d.blob ino).length, mode⟩, none⟩
        d := by
  obtain ⟨j, -, hp, hc⟩ := h.journal
  obtain ⟨hopen, hc'⟩ := hc.reopen (hp ▸ h.dirs) mode
  rw [hp] at hopen hc'
  rw [openDir_run, hopen]
  simp only
  rw [hc'.recover, h.folded]

end Directory

end ProgressStore

/-- The progress a store of a data directory holds after any run of acknowledgments and
rewinds is what opening the directory again gives back, listed in the order of the
consumers' names. Along the run every call does what `ProgressStore.Meets` says: an
acknowledgment keeps the maximum and a rewind sets exactly or forgets, an acknowledgment that
raises nothing writes nothing, and every other call appends exactly its record's frame to the
journal. -/
theorem progress_replays_live_state {dir : String} {mode : SyncMode} {d₀ d₁ : Disk}
    {s₀ : ProgressStore} (hopen : ProgressStore.openDir dir mode d₀ = .ok s₀ d₁)
    (calls : List ProgressRecord) (hfit : ∀ r ∈ calls, r.Fits) (mode' : SyncMode) :
    let run := runSteps ProgressStore.perform calls (s₀, d₁)
    (∀ i (hi : i < calls.length),
      let x := (runSteps ProgressStore.perform (calls.take i) (s₀, d₁)).2
      ProgressStore.Meets (Disk.join dir progressFile) x.1 x.2 calls[i]
        (outcome (ProgressStore.perform calls[i] x)) (stateOf (ProgressStore.perform calls[i] x))) ∧
    ∃ s', ProgressStore.openDir dir mode' run.2.2 = .ok s' run.2.2 ∧
      s'.load = run.2.1.load ∧ s'.load.Pairwise (fun a b => a.1.raw < b.1.raw) := by
  intro run
  obtain ⟨ino, ps, h₀, -⟩ := ProgressStore.openDir_replays hopen
  -- the store replays its journal after every prefix of the run
  have hstep : ∀ r (x : ProgressStore × Disk), r.Fits →
      (∃ qs, x.1.Replays x.2 (Disk.join dir progressFile) ino qs) →
      ∃ qs, (stateOf (ProgressStore.perform r x)).1.Replays (stateOf (ProgressStore.perform r x)).2
        (Disk.join dir progressFile) ino qs := by
    rintro r x hr ⟨qs, hx⟩
    obtain ⟨qs', -, hx'⟩ := hx.step r hr
    exact ⟨qs ++ qs', hx'⟩
  have hrun : ∀ (rs : List ProgressRecord), (∀ r ∈ rs, r.Fits) →
      ∃ qs, (runSteps ProgressStore.perform rs (s₀, d₁)).2.1.Replays
        (runSteps ProgressStore.perform rs (s₀, d₁)).2.2 (Disk.join dir progressFile) ino qs :=
    fun rs hrs => runSteps_inv_of ProgressStore.perform hstep rs (s₀, d₁) hrs ⟨ps, h₀⟩
  refine ⟨fun i hi => ?_, ?_⟩
  · obtain ⟨qs, hx⟩ := hrun (calls.take i) fun r hr => hfit r (List.mem_of_mem_take hr)
    exact hx.meets calls[i]
  · obtain ⟨qs, hx⟩ := hrun calls hfit
    exact ⟨_, hx.reopen mode', rfl, hx.sorted⟩

/-- A disk whose one entry is the directory "data" has the directory, and no journal in it. -/
theorem dataDir_dirsAt : ({ entries := [("data", .dir)] } : Disk).DirsAt "data" := by
  intro k hk
  decide +revert

theorem dataDir_progress : ({ entries := [("data", .dir)] } : Disk).lookup
    (Disk.join "data" progressFile) = none := by
  rw [Disk.lookup, Disk.normal,
    Disk.components_join _ progressFile_name.1 progressFile_name.2.1 progressFile_name.2.2]
  decide

theorem dataDir_events : ({ entries := [("data", .dir)] } : Disk).lookup
    (Disk.join "data" eventsFile) = none := by
  rw [Disk.lookup, Disk.normal,
    Disk.components_join _ eventsFile_name.1 eventsFile_name.2.1 eventsFile_name.2.2]
  decide

/-- On "data", the one directory of a disk, a raise, an acknowledgment that raises nothing, a
rewind, another consumer's raise and a forgetting replay to the progress the store holds. -/
theorem progress_replays_on_data_directory :
    let c : ConsumerId := ⟨"indexer", by decide⟩
    let calls := [ProgressRecord.ack c 5, .ack c 3, .rewind c (some 2),
      .ack ⟨"audit", by decide⟩ 7, .rewind c none]
    (∀ r ∈ calls, r.Fits) ∧
    ∃ s₀ d₁, ProgressStore.openDir "data" .everyWrite { entries := [("data", .dir)] } =
        .ok s₀ d₁ ∧
      let run := runSteps ProgressStore.perform calls (s₀, d₁)
      (∀ i (hi : i < calls.length),
        let x := (runSteps ProgressStore.perform (calls.take i) (s₀, d₁)).2
        ProgressStore.Meets (Disk.join "data" progressFile) x.1 x.2 calls[i]
          (outcome (ProgressStore.perform calls[i] x))
          (stateOf (ProgressStore.perform calls[i] x))) ∧
      ∃ s', ProgressStore.openDir "data" .everyWrite run.2.2 = .ok s' run.2.2 ∧
        s'.load = run.2.1.load ∧ s'.load.Pairwise (fun a b => a.1.raw < b.1.raw) := by
  intro c calls
  have hfit : ∀ r ∈ calls, r.Fits := by
    simp [calls, ProgressRecord.Fits]
  have hopen : ProgressStore.openDir "data" .everyWrite _ = _ :=
    ProgressStore.openDir_create dataDir_dirsAt dataDir_progress
  exact ⟨hfit, _, _, hopen, progress_replays_live_state hopen calls hfit .everyWrite⟩

end ChangeLog
