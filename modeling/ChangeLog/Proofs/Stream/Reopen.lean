import Mathlib
import ChangeLog.Proofs.Progress.Replay
import ChangeLog.Proofs.Journal.Apart
/-
  Opening a data directory a second time, right after the first, opens the same stream and
  writes nothing.

  The first opening leaves the events journal clean on its file (`EventStore.openDir_parts`)
  and the store of progress replaying its journal (`ProgressStore.openDir_replays`). Recovery
  of the tracker then rewinds in the store every progress past the log; each rewind is one
  frame at the end of the progress journal's file, and the store still replays its journal
  (`AckTracker.recover_replays`). The events journal's file is not touched by any of it, unless
  both names are one file, and then only by those rewinds, which the events reader never reads
  (`ChangeEvent.decode_rewind`). So the second opening reads the same events
  (`EventStore.openDir_whole`), and progress that is already below the next offset, which it
  takes as it is.

  The disks here number every file below their next number (`Disk.Numbered`), as a disk whose
  files the disk itself made does: the first opening may make the progress journal's file,
  and a new file must not be one that is there.

  Main statement: `open_data_directory_idempotent`.
-/

namespace ChangeLog

/-- A file scans to its end in one way only. -/
theorem Frame.Whole.unique {bs : Bytes} {ps qs : List Bytes} (hp : Frame.Whole bs ps)
    (hq : Frame.Whole bs qs) : ps = qs := by
  rw [Frame.Whole, hp] at hq
  cases hq
  rfl

/-- Events in their places, each with an offset of 64 bits, are at most 2^64. -/
theorem length_le_of_offsetGap?_none {evs : List ChangeEvent} (hgap : offsetGap? 0 evs = none)
    (hfit : ∀ ev ∈ evs, ev.offset < 2 ^ 64) : evs.length ≤ 2 ^ 64 := by
  rcases Nat.eq_zero_or_pos evs.length with h0 | hpos
  · omega
  · -- the last event sits at the last place
    have hlast := (offsetGap?_eq_none_iff evs 0).1 hgap (evs.length - 1) _
      (List.getElem?_eq_getElem (by omega))
    have := hfit evs[evs.length - 1] (List.getElem_mem _)
    omega

namespace EventStore

variable {dir : String} {mode : SyncMode} {d₀ d : Disk} {es : EventStore}

/-- What an opening of the events store leaves: a journal clean on its file whose payloads
read back as the events held, all in their places. The opening keeps every name there was. -/
theorem openDir_parts (hopen : openDir dir mode d₀ = .ok es d) :
    ∃ ino ps j, es = ⟨{ events := ps.filterMap ChangeEvent.decode }, some j⟩ ∧
      j.Clean d ino ps ∧ j.path = Disk.join dir eventsFile ∧
      offsetGap? 0 (ps.filterMap ChangeEvent.decode) = none ∧ (d₀.Numbered → d.Numbered) ∧
      Disk.Keeps d₀ d ∧ d.DirsAt (Disk.parent (Disk.join dir eventsFile)) := by
  rw [openDir_run] at hopen
  rcases ho : Journal.openPath (Disk.join dir eventsFile) mode d₀ with ⟨j, d₁⟩ | ⟨e, d₁⟩ <;>
    rw [ho] at hopen
  · simp only at hopen
    rcases hr : j.recover d₁ with ⟨⟨j', ps⟩, d₂⟩ | ⟨e, d₂⟩ <;> rw [hr] at hopen
    · simp only at hopen
      cases hgap : offsetGap? 0 (ps.filterMap ChangeEvent.decode) with
      | some r =>
        rw [hgap] at hopen
        cases hopen
      | none =>
        rw [hgap] at hopen
        cases hopen
        obtain ⟨ino, hc, hp, hn, hk, hdirs, -⟩ :=
          Journal.openPath_recover (pathEnd_eventsPath dir) ho hr
        exact ⟨ino, ps, j', rfl, hc, hp, hgap, hn, hk, hdirs⟩
    · cases hopen
  · cases hopen

/-- The events store opens on a file that scans to its end and reads back as events in their
places, changing nothing. -/
theorem openDir_whole {ino : Nat} {ps : List Bytes}
    (hl : d.lookup (Disk.join dir eventsFile) = some (.file ino))
    (hdirs : d.DirsAt (Disk.parent (Disk.join dir eventsFile))) (hw : Frame.Whole (d.blob ino) ps)
    (hgap : offsetGap? 0 (ps.filterMap ChangeEvent.decode) = none) (mode : SyncMode) :
    openDir dir mode d = .ok ⟨{ events := ps.filterMap ChangeEvent.decode },
      some ⟨Disk.join dir eventsFile, .file ino, (d.blob ino).length, mode⟩⟩ d := by
  have hc : Journal.Clean ⟨Disk.join dir eventsFile, .file ino, (d.blob ino).length, mode⟩
      d ino ps := ⟨⟨hl, pathEnd_eventsPath dir, rfl⟩, hw, rfl⟩
  rw [openDir_run, Journal.openPath_file hdirs hl (pathEnd_eventsPath dir)]
  simp only
  rw [hc.recover]
  simp only [hgap]

end EventStore

namespace AckTracker

variable {path : String} {ino : Nat}

/-- Recovery over entries keeps the store replaying its journal. Each rewind it makes is the
frame of a rewind at the end of the journal's file, and nothing else on the disk changes. -/
theorem recoverEntries_replays (n : Nat) (hn : n ≤ 2 ^ 64) :
    ∀ (xs : List (ConsumerId × Nat)) (acc : ProgressMap) (s : ProgressStore) (d : Disk)
      (ps : List Bytes) (m : ProgressMap) (s' : ProgressStore) (d' : Disk),
      s.Replays d path ino ps → recoverEntries n xs acc (s, d) = .ok m (s', d') →
      ∃ qs, s'.Replays d' path ino (ps ++ qs) ∧
        (∀ q ∈ qs, ∃ c o, q = (ProgressRecord.rewind c o).encode) ∧
        (∀ p, d'.lookup p = d.lookup p) ∧ ∀ i, i ≠ ino → d'.blob i = d.blob i := by
  intro xs
  induction xs with
  | nil =>
    intro acc s d ps m s' d' h hrec
    cases hrec
    exact ⟨[], by simpa using h, fun _ hq => (List.not_mem_nil hq).elim, fun _ => rfl,
      fun _ _ => rfl⟩
  | cons e rest ih =>
    obtain ⟨c, o⟩ := e
    intro acc s d ps m s' d' h hrec
    simp only [recoverEntries] at hrec
    split at hrec
    · exact ih _ s d ps m s' d' h hrec
    · -- past the next offset: the store rewinds to the last offset, or forgets the consumer
      simp only [bind, EStateM.bind, Within.mapError, EStateM.adaptExcept] at hrec
      have hfit : (ProgressRecord.rewind c (if n = 0 then none else some (n - 1))).Fits := by
        intro x hx
        split at hx
        · cases hx
        · cases hx
          omega
      obtain ⟨q₁, hq₁, h₁⟩ := h.step _ hfit
      obtain ⟨hl₁, hb₁⟩ := h.frame (.rewind c (if n = 0 then none else some (n - 1)))
      rcases hw : ProgressStore.rewind c (if n = 0 then none else some (n - 1)) (s, d) with
        ⟨u, s₁, d₁⟩ | ⟨err, s₁, d₁⟩ <;> simp only [hw, reduceCtorEq] at hrec
      change ProgressStore.perform (.rewind c _) (s, d) = _ at hw
      rw [hw] at h₁ hl₁ hb₁
      obtain ⟨qs, h', hqs, hl, hb⟩ := ih _ s₁ d₁ _ m s' d' h₁ hrec
      refine ⟨q₁ ++ qs, by rwa [List.append_assoc] at h', fun q hq => ?_,
        fun p => (hl p).trans (hl₁ p), fun i hi => (hb i hi).trans (hb₁ i hi)⟩
      rcases List.mem_append.1 hq with hq | hq
      · exact ⟨c, _, hq₁ q hq⟩
      · exact hqs q hq

/-- Recovery keeps the store replaying its journal, adding rewinds to it and changing no
other file and no name. -/
theorem recover_replays {n : Nat} (hn : n ≤ 2 ^ 64) {s s' : ProgressStore} {d d' : Disk}
    {ps : List Bytes} {m : ProgressMap} (h : s.Replays d path ino ps)
    (hrec : recover n (s, d) = .ok m (s', d')) :
    ∃ qs, s'.Replays d' path ino (ps ++ qs) ∧
      (∀ q ∈ qs, ∃ c o, q = (ProgressRecord.rewind c o).encode) ∧
      (∀ p, d'.lookup p = d.lookup p) ∧ ∀ i, i ≠ ino → d'.blob i = d.blob i := by
  simp only [recover, bind, EStateM.bind, Within.current_apply] at hrec
  exact recoverEntries_replays n hn _ {} s d ps m s' d' h hrec

end AckTracker

/-- A data directory opened once opens again on the disk the first opening left, changing
nothing on it, to a stream with the same next offset, the same events and the same progress of
every consumer. -/
theorem open_data_directory_idempotent {dir : String} {mode : SyncMode} {config : StreamConfig}
    {d₀ d₁ : Disk} {s₁ : ChangeStream} (hn : d₀.Numbered)
    (hopen : ChangeStream.openDir dir mode config d₀ = .ok s₁ d₁) (mode' : SyncMode)
    (config' : StreamConfig) :
    ∃ s₂, ChangeStream.openDir dir mode' config' d₁ = .ok s₂ d₁ ∧
      s₂.nextOffset = s₁.nextOffset ∧ s₂.events.log.events = s₁.events.log.events ∧
      s₂.acks.all = s₁.acks.all := by
  rw [ChangeStream.openDir_run] at hopen
  rcases he : EventStore.openDir dir mode d₀ with ⟨es, dB⟩ | ⟨e, dB⟩ <;> rw [he] at hopen
  swap
  · cases hopen
  simp only at hopen
  rcases hp : ProgressStore.openDir dir mode dB with ⟨ps, dD⟩ | ⟨e, dD⟩ <;> rw [hp] at hopen
  swap
  · cases hopen
  simp only at hopen
  obtain ⟨E, psE, jE, rfl, hcE, hpathE, hgap, hnB, hkB, hdirsE⟩ := EventStore.openDir_parts he
  obtain ⟨P, psP, hrP, -, hkD, hblobD⟩ := ProgressStore.openDir_replays hp
  set evs := psE.filterMap ChangeEvent.decode with hevs
  rcases hrec : AckTracker.recover (EventStore.nextOffset ⟨{ events := evs }, some jE⟩) (ps, dD)
    with ⟨m, ps', dE⟩ | ⟨err, ps', dE⟩
  swap
  · simp only [ChangeStream.openWith, Within.run', hrec] at hopen
    cases hopen
  rw [ChangeStream.openWith_of_recover hrec] at hopen
  cases hopen
  -- every event read back has an offset of 64 bits, so there are at most 2^64 of them
  have hlen : evs.length ≤ 2 ^ 64 := by
    refine length_le_of_offsetGap?_none hgap fun ev hev => ?_
    obtain ⟨p, -, hp⟩ := List.mem_filterMap.1 hev
    exact ChangeEvent.decode_offset_lt hp
  obtain ⟨qs, hrE, hqs, hlE, hbE⟩ := AckTracker.recover_replays hlen hrP hrec
  have hcoh := AckTracker.Coherent.recover hrP.sorted hrec
  have hbelow := AckTracker.recover_below hrec
  -- the events journal's file: untouched by the progress store, or shared with it
  have hlB : dB.lookup (Disk.join dir eventsFile) = some (.file E) := hpathE ▸ hcE.onFile.lookup
  have hlD : dD.lookup (Disk.join dir eventsFile) = some (.file E) := by
    rw [hkD _ (by rw [hlB]; exact Option.some_ne_none _), hlB]
  have hEnext : E < dB.nextIno := hnB hn _ E hlB
  have hbD : dD.blob E = dB.blob E := hblobD E hEnext (.inr ⟨psE, hcE.whole⟩)
  obtain ⟨qs', hqs', hwE⟩ : ∃ qs', (∀ q ∈ qs', ∃ c o, q = (ProgressRecord.rewind c o).encode) ∧
      Frame.Whole (d₁.blob E) (psE ++ qs') := by
    by_cases hEP : E = P
    · subst hEP
      obtain ⟨jP, -, -, hcP⟩ := hrE.journal
      obtain ⟨jP₀, -, -, hcP₀⟩ := hrP.journal
      have hsame : psP = psE := hcP₀.whole.unique (by rw [hbD]; exact hcE.whole)
      exact ⟨qs, hqs, hsame ▸ hcP.whole⟩
    · exact ⟨[], fun _ hq => (List.not_mem_nil hq).elim,
        by rw [List.append_nil, hbE E hEP, hbD]; exact hcE.whole⟩
  have hevsE : (psE ++ qs').filterMap ChangeEvent.decode = evs := by
    rw [List.filterMap_append, hevs, List.append_right_eq_self, List.filterMap_eq_nil_iff]
    intro q hq
    obtain ⟨c, o, rfl⟩ := hqs' q hq
    exact ChangeEvent.decode_rewind c o
  have hopenE := EventStore.openDir_whole (by rw [hlE]; exact hlD)
    (hdirsE.keeps fun q hq => by rw [hlE, hkD q hq]) hwE (by rw [hevsE]; exact hgap)
    mode'
  rw [hevsE] at hopenE
  -- the progress, all below the next offset, is taken as it is
  have hbelow' : ps'.map.Below evs.length := hcoh.agrees ▸ hbelow
  have hreopen : ChangeStream.openDir dir mode' config' d₁ =
      .ok ⟨⟨{ events := evs },
          some ⟨Disk.join dir eventsFile, .file E, (d₁.blob E).length, mode'⟩⟩,
        ⟨⟨ps'.map, some ⟨Disk.join dir progressFile, .file P, (d₁.blob P).length, mode'⟩, none⟩,
          ps'.map⟩, {}, config'⟩ d₁ := by
    rw [ChangeStream.openDir_run, hopenE]
    simp only
    rw [hrE.reopen mode']
    simp only
    exact ChangeStream.openWith_of_below hrE.sorted hbelow'
  refine ⟨_, hreopen, rfl, rfl, ?_⟩
  simp only [AckTracker.all]
  rw [show m = ps'.map from hcoh.agrees]

theorem dataDir_numbered : ({ entries := [("data", .dir)] } : Disk).Numbered := by
  intro p ino h
  simp only [Disk.lookup] at h
  -- the one entry is a directory, so no name is a file
  split_ifs at h
  · cases h
  · rw [List.find?_cons, List.find?_nil] at h
    split at h <;> cases h

/-- The directory "data", the one directory of a disk, opens twice to the same stream, and the
second opening writes nothing. -/
theorem open_data_directory_twice :
    ({ entries := [("data", .dir)] } : Disk).Numbered ∧
    ∃ s₁ d₁, ChangeStream.openDir "data" .everyWrite {} { entries := [("data", .dir)] } =
        .ok s₁ d₁ ∧
      ∃ s₂, ChangeStream.openDir "data" .everyWrite {} d₁ = .ok s₂ d₁ ∧
        s₂.nextOffset = s₁.nextOffset ∧ s₂.events.log.events = s₁.events.log.events ∧
        s₂.acks.all = s₁.acks.all := by
  obtain ⟨s₁, d₁, hopen⟩ : ∃ s d', ChangeStream.openDir "data" .everyWrite {}
      { entries := [("data", .dir)] } = .ok s d' :=
    ChangeStream.openDir_create dataDir_dirsAt dataDir_events dataDir_progress
  exact ⟨dataDir_numbered, s₁, d₁, hopen,
    open_data_directory_idempotent dataDir_numbered hopen .everyWrite {}⟩

end ChangeLog
