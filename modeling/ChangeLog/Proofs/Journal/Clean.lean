import Mathlib
import ChangeLog.Proofs.Journal.Open
import ChangeLog.Proofs.Stream.Atomic
/-
  Journals whose files scan to their end. After a recovery the frame scan reads a journal's
  file to its last byte, though the file may still hold frames whose checksums fail or whose
  payloads read as no record. `Journal.Clean` says so, with the writer's count at the file's
  end. A clean journal recovers its payloads and changes nothing (`Clean.recover`), opens
  again on its file (`Clean.reopen`), and an append that goes through keeps it clean with one
  more payload (`Clean.grow`), which with no faults every append of a payload that fits does
  (`Clean.append`); an append that fails changes no file (`Clean.append_error`).

  A disk is numbered when every file a name refers to has a number below the next one
  (`Disk.Numbered`), as on every disk built by making files: a new file is then never one
  that a name already refers to. Opening a journal gives one on a file and leaves the rest of
  the disk as `Journal.Opened` says (`openPath_opened`); recovering it then leaves the journal
  clean (`Opened.recover`). Together (`openPath_recover`): every name that referred to something
  is as it was, and so are the bytes of every other file, and of a file that already scanned
  to its end.
-/

namespace ChangeLog

namespace Frame

/-- The scan reads bytes to their end, giving payloads. -/
def Whole (bs : Bytes) (ps : List Bytes) : Prop := scan bs = .ok (ps, bs.length)

/-- A scan that ends at the end of some bytes walked whole frames only, so it walks them the
same way when more bytes follow, and goes on there. -/
theorem scanFrom_append_of_end {pos : Nat} {bs : Bytes} {ps : List Bytes}
    (h : scanFrom pos bs = .ok (ps, pos + bs.length)) (rest : Bytes) :
    scanFrom pos (bs ++ rest) =
      (scanFrom (pos + bs.length) rest).map fun r => (ps ++ r.1, r.2) := by
  fun_induction scanFrom pos bs generalizing ps with
  | case1 pos =>
    simp only [Except.ok.injEq, Prod.mk.injEq] at h
    obtain ⟨rfl, -⟩ := h
    simp only [List.nil_append, List.length_nil, Nat.add_zero]
    cases scanFrom pos rest <;> rfl
  | case2 => cases h
  | case3 pos b rest' hpeel hvalid =>
    simp only [Except.ok.injEq, Prod.mk.injEq, List.length_cons] at h
    omega
  | case4 pos b rest' crc payload after hpeel _ more hcrc =>
    rename_i ih
    have hlen := (peel?_length hpeel).1
    cases hm : more with
    | error e => rw [hm] at h; cases h
    | ok r =>
      obtain ⟨ps', t'⟩ := r
      rw [hm] at h
      simp only [Except.map, Except.ok.injEq, Prod.mk.injEq] at h
      obtain ⟨rfl, ht⟩ := h
      -- the frames after the first end where the whole bytes end
      have hm' : more = .ok (ps', pos + headerSize + payload.length + after.length) := by
        rw [hm, ht, hlen]
        congr 2
        omega
      rw [scanFrom_of_peel (peel?_append hpeel), if_pos hcrc, ih hm', hlen,
        show pos + headerSize + payload.length + after.length =
          pos + (headerSize + payload.length + after.length) by omega]
      cases scanFrom (pos + (headerSize + payload.length + after.length)) rest <;> rfl
  | case5 pos b rest' crc payload after hpeel _ more hcrc =>
    rename_i ih
    have hlen := (peel?_length hpeel).1
    have hm' : more = .ok (ps, pos + headerSize + payload.length + after.length) := by
      rw [h, hlen]
      congr 2
      omega
    rw [scanFrom_of_peel (peel?_append hpeel), if_neg hcrc, ih hm', hlen,
      show pos + headerSize + payload.length + after.length =
        pos + (headerSize + payload.length + after.length) by omega]

/-- A frame appended to bytes that scan whole is read after their payloads. -/
theorem Whole.append_encode {bs : Bytes} {ps : List Bytes} (h : Whole bs ps) {p : Bytes}
    (h0 : 0 < p.length) (hlen : p.length < 4294967296) :
    Whole (bs ++ encode p) (ps ++ [p]) := by
  have h' : scanFrom 0 bs = .ok (ps, 0 + bs.length) := by rw [Nat.zero_add]; exact h
  have hp := scanFrom_encode (0 + bs.length) p [] h0 hlen
  rw [List.append_nil, scanFrom_nil] at hp
  unfold Whole scan
  rw [scanFrom_append_of_end h', hp]
  simp only [Except.map, List.length_append, encode_length]
  congr 2
  omega

end Frame

namespace Disk

/-- Every file a name refers to has a number below the next one, so a new file is never one
that a name already refers to. -/
def Numbered (d : Disk) : Prop := ∀ p ino, d.lookup p = some (.file ino) → ino < d.nextIno

variable {d d' : Disk}

theorem Numbered.onlyDirs (h : d.Numbered) (hd : OnlyDirs d d') : d'.Numbered := by
  intro p ino hp
  have hnext : d'.nextIno = d.nextIno := by rw [hd.same]
  rw [hnext]
  by_cases h0 : d.lookup p = none
  · -- a name that had nothing now holds at most a directory
    rcases hd.new p h0 with h1 | h1 <;> rw [h1] at hp <;> cases hp
  · exact h p ino (by rw [← hd.keeps p h0]; exact hp)

theorem Numbered.createFile (h : d.Numbered) (path : String) : (d.createFile path).1.Numbered := by
  intro p ino hp
  rw [lookup_createFile] at hp
  rw [nextIno_createFile]
  split_ifs at hp
  · cases hp
  · cases hp
    exact Nat.lt_succ_self _
  · exact Nat.lt_succ_of_lt (h p ino hp)

theorem Numbered.setBlob (h : d.Numbered) (ino : Nat) (bs : Bytes) : (d.setBlob ino bs).Numbered :=
  fun p i hp => h p i hp

end Disk

namespace Journal

/-- A journal is clean when its file scans to its end and its count is the file's length. -/
structure Clean (j : Journal) (d : Disk) (ino : Nat) (ps : List Bytes) : Prop where
  onFile : j.OnFile d ino
  whole : Frame.Whole (d.blob ino) ps
  counted : j.offset = (d.blob ino).length

variable {j : Journal} {d : Disk} {ino : Nat} {ps : List Bytes}

/-- A journal that holds payloads as its frames is clean. -/
theorem Holds.clean (h : j.Holds d ino ps) : j.Clean d ino ps :=
  ⟨h.onFile, by rw [Frame.Whole, h.file]; exact Frame.scan_framed h.fit, by rw [h.counted, h.file]⟩

/-- A clean journal recovers its payloads and changes nothing. -/
theorem Clean.recover (h : j.Clean d ino ps) : j.recover d = .ok (j, ps) d := by
  rw [recover_of_scan_ok h.onFile h.whole, if_neg (Nat.lt_irrefl _)]

theorem Clean.fits (h : j.Clean d ino ps) : j.Fits d := fun i hi => by
  rw [h.onFile.handle] at hi
  cases hi
  exact h.counted.symm

/-- A clean journal stays clean on a disk where its name and its file are as they were. -/
theorem Clean.transfer (h : j.Clean d ino ps) {d' : Disk} (hl : d'.lookup j.path = d.lookup j.path)
    (hb : d'.blob ino = d.blob ino) : j.Clean d' ino ps :=
  ⟨⟨hl.trans h.onFile.lookup, h.onFile.named, h.onFile.handle⟩,
    by rw [Frame.Whole, hb]; exact h.whole, by rw [hb]; exact h.counted⟩

/-- The frame of a payload that fits, written at the end of a clean journal's file and
counted, leaves the journal clean with one more payload. -/
theorem Clean.grow (h : j.Clean d ino ps) {p : Bytes} (hp : 0 < p.length ∧ p.length < 4294967296) :
    Clean { j with offset := j.offset + (Frame.encode p).length }
      (d.setBlob ino (d.blob ino ++ Frame.encode p)) ino (ps ++ [p]) :=
  ⟨(h.onFile.withOffset _).setBlob ino _,
    by rw [Frame.Whole, Disk.blob_setBlob_self]; exact h.whole.append_encode hp.1 hp.2,
    by simp [h.counted]⟩

/-- With no faults, an append to a clean journal writes its frame at the end of the file and
leaves the journal clean with one more payload. -/
theorem Clean.append (h : j.Clean d ino ps) (hfree : d.limited = false) {p : Bytes}
    (hp : 0 < p.length ∧ p.length < 4294967296) :
    j.append p d = .ok ({ j with offset := j.offset + (Frame.encode p).length }, j.offset)
        (d.setBlob ino (d.blob ino ++ Frame.encode p)) ∧
      Clean { j with offset := j.offset + (Frame.encode p).length }
        (d.setBlob ino (d.blob ino ++ Frame.encode p)) ino (ps ++ [p]) :=
  ⟨append_file h.onFile.handle hfree hp.2, h.grow hp⟩

/-- An append to a clean journal that fails changes no file. -/
theorem Clean.append_error (h : j.Clean d ino ps) {p : Bytes} {e : StoreError} {d' : Disk}
    (ha : j.append p d = .error e d') : d.SameFiles d' :=
  Journal.append_error h.fits ha

/-- A clean journal, with the directories above its path in place, opens again on its file,
changing nothing, and the journal opened is clean with the same payloads. -/
theorem Clean.reopen (h : j.Clean d ino ps) (hdirs : d.DirsAt (Disk.parent j.path)) (m : SyncMode) :
    openPath j.path m d = .ok ⟨j.path, .file ino, (d.blob ino).length, m⟩ d ∧
      Clean ⟨j.path, .file ino, (d.blob ino).length, m⟩ d ino ps :=
  ⟨openPath_file hdirs h.onFile.lookup h.onFile.named,
    ⟨⟨h.onFile.lookup, h.onFile.named, rfl⟩, h.whole, rfl⟩⟩

/-- A recovery that succeeds leaves the journal clean, cutting at most its own file, and a
file that already scanned to its end not at all. -/
theorem recover_clean (hj : j.OnFile d ino) (hc : j.offset = (d.blob ino).length) {j' : Journal}
    {d' : Disk} (h : j.recover d = .ok (j', ps) d') :
    j'.Clean d' ino ps ∧ j'.path = j.path ∧ d'.entries = d.entries ∧ d'.nextIno = d.nextIno ∧
      d'.limited = d.limited ∧ (∀ i, i ≠ ino → d'.blob i = d.blob i) ∧
      (∀ qs, Frame.Whole (d.blob ino) qs → d' = d) := by
  cases hs : Frame.scan (d.blob ino) with
  | error p => rw [recover_of_scan_error hj hs] at h; cases h
  | ok r =>
    obtain ⟨ps', t⟩ := r
    obtain ⟨p, hp, hw, -⟩ := Frame.scanFrom_ok_walk hs
    rw [Nat.zero_add] at hp
    rw [hp] at hs
    -- the file cut at the stop scans to its end
    have hcut : Frame.Whole ((d.blob ino).take p) ps' := by
      have := Frame.scanFrom_take (t := p) (by rw [Nat.zero_add]; exact hs)
      rw [Nat.zero_add] at this
      rw [Frame.Whole, List.length_take, Nat.min_eq_left hw.le_length]
      exact this
    rw [recover_of_scan_ok hj hs] at h
    by_cases ht : p < (d.blob ino).length
    · rw [if_pos ht] at h
      cases h
      refine ⟨⟨(hj.withOffset p).setBlob ino _, by simpa using hcut, by simp; omega⟩, rfl, rfl, rfl,
        rfl, fun i hi => Disk.blob_setBlob_of_ne _ _ hi, fun qs hq => ?_⟩
      -- a file that scans to its end has its stop at the end
      rw [Frame.Whole, hs] at hq
      simp only [Except.ok.injEq, Prod.mk.injEq] at hq
      omega
    · rw [if_neg ht] at h
      cases h
      have hp : p = (d.blob ino).length := by have := hw.le_length; omega
      refine ⟨⟨hj, ?_, hc⟩, rfl, rfl, rfl, rfl, fun _ _ => rfl, fun _ _ => rfl⟩
      rw [← List.take_length (l := d.blob ino), ← hp]
      exact hcut

/-- A journal's path that names the full device reads as no file, so recovery fails. -/
theorem recover_full {r : Journal × List Bytes} {d' : Disk} (h : j.recover d = .ok r d')
    (hl : d.lookup j.path = some .full) : False := by
  simp only [recover, bind, EStateM.bind, get, getThe, MonadStateOf.get, EStateM.get,
    Disk.readPath, hl, throw, throwThe, MonadExceptOf.throw, EStateM.throw] at h
  cases h

/-- What opening a journal on a file leaves, against the disk before the opening: the file under
the path, every name that referred to something, the numbering of the files, the directories
above the path and the room on the disk, and every file below the next number as it was, the
opened one too when it was there before. -/
structure Opened (d d₁ : Disk) (path : String) (ino : Nat) : Prop where
  lookup : d₁.lookup path = some (.file ino)
  numbered : d.Numbered → d₁.Numbered
  keeps : Disk.Keeps d d₁
  dirsAt : d₁.DirsAt (Disk.parent path)
  limited : d₁.limited = d.limited
  others : ∀ i, i < d.nextIno → i ≠ ino → d₁.blob i = d.blob i
  self : ino < d.nextIno → d₁.blob ino = d.blob ino

/-- Opening a journal gives one on a file, which it found or made, or one on the full device. -/
theorem openPath_opened {path : String} {mode : SyncMode} {d d₁ : Disk} {j : Journal}
    (he : Disk.pathEnd path = .name) (hopen : openPath path mode d = .ok j d₁) :
    (∃ ino, j = ⟨path, .file ino, (d₁.blob ino).length, mode⟩ ∧ Opened d d₁ path ino) ∨
      d₁.lookup j.path = some .full := by
  obtain ⟨dA, hd, hc, ho, rfl⟩ := openPath_ok hopen
  obtain ⟨hmade, hdirs⟩ := Disk.createDirAll_ok hc
  have hnext : dA.nextIno = d.nextIno := by rw [hmade.same]
  have hblobA : ∀ i, dA.blob i = d.blob i := fun i => by rw [hmade.same]; rfl
  have hlimA : dA.limited = d.limited := by rw [hmade.same]
  cases hl : dA.lookup path with
  | none =>
    -- a new empty file is made under the name, with the next number
    obtain ⟨-, rfl, rfl⟩ := Disk.openAppend_fresh hl he ho
    refine .inl ⟨dA.nextIno, rfl, ⟨?_, fun hn => (hn.onlyDirs hmade).createFile path,
      hmade.keeps.trans (Disk.keeps_createFile hl), hdirs.keeps (Disk.keeps_createFile hl),
      by rw [Disk.limited_createFile, hlimA], fun i hi hne => ?_, fun hlt => by omega⟩⟩
    · rw [Disk.lookup_createFile, if_neg, if_pos rfl]
      intro h0
      rw [Disk.lookup_empty_path dA h0] at hl
      cases hl
    · rw [Disk.blob_createFile, if_neg (by omega), hblobA]
  | some n =>
    cases n with
    | dir => rw [Disk.openAppend_dir hl he] at ho; cases ho
    | file ino =>
      rw [Disk.openAppend_file hl he] at ho
      cases ho
      exact .inl ⟨ino, rfl, ⟨hl, fun hn => hn.onlyDirs hmade, hmade.keeps, hdirs, hlimA,
        fun i _ _ => hblobA i, fun _ => hblobA ino⟩⟩
    | full =>
      have ho' : Disk.openAppend path dA = .ok .full dA := by
        rw [Disk.openAppend]
        show EStateM.bind EStateM.get _ dA = _
        simp only [EStateM.bind, EStateM.get, he, hl]
        rfl
      rw [ho'] at ho
      cases ho
      exact .inr hl

/-- Recovering a journal opened on a file leaves it clean there, cutting at most that file and
that only when it did not scan to its end, and keeps what the opening kept. -/
theorem Opened.recover {path : String} {mode : SyncMode} {d d₁ d₂ : Disk} {j' : Journal}
    (ho : Opened d d₁ path ino) (he : Disk.pathEnd path = .name)
    (hrec : Journal.recover ⟨path, .file ino, (d₁.blob ino).length, mode⟩ d₁ = .ok (j', ps) d₂) :
    j'.Clean d₂ ino ps ∧ j'.path = path ∧ (d.Numbered → d₂.Numbered) ∧ Disk.Keeps d d₂ ∧
      d₂.DirsAt (Disk.parent path) ∧ d₂.limited = d.limited ∧
      ∀ i, i < d.nextIno → (i ≠ ino ∨ ∃ qs, Frame.Whole (d.blob i) qs) → d₂.blob i = d.blob i := by
  have hj : Journal.OnFile ⟨path, .file ino, (d₁.blob ino).length, mode⟩ d₁ ino :=
    ⟨ho.lookup, he, rfl⟩
  obtain ⟨hclean, hpath, hent, hnext₂, hlim₂, hblob₂, hwhole₂⟩ := recover_clean hj rfl hrec
  have hlook : ∀ q, d₂.lookup q = d₁.lookup q := fun q => by simp [Disk.lookup, hent]
  refine ⟨hclean, hpath, fun hn p i hp => ?_, fun q hq => ?_, fun k hk => ?_, ?_, ?_⟩
  · rw [hlook] at hp
    rw [hnext₂]
    exact ho.numbered hn p i hp
  · rw [hlook]
    exact ho.keeps q hq
  · rw [hlook]
    exact ho.dirsAt k hk
  · rw [hlim₂, ho.limited]
  · intro i hi hcase
    by_cases hino : i = ino
    · -- the opened file is cut only when it did not scan to its end
      subst hino
      rcases hcase with hne | ⟨qs, hq⟩
      · exact absurd rfl hne
      · rw [hwhole₂ qs (by rw [ho.self hi]; exact hq), ho.self hi]
    · rw [hblob₂ i hino, ho.others i hi hino]

/-- Opening a journal on a numbered disk and recovering it leaves the journal clean on a
file its path names, keeps every name that referred to something, the directories above the
path, and the bytes of every other file and of a file that already scanned to its end. -/
theorem openPath_recover {path : String} {mode : SyncMode} {d d₁ d₂ : Disk} {j j' : Journal}
    (he : Disk.pathEnd path = .name)
    (hopen : openPath path mode d = .ok j d₁) (hrec : j.recover d₁ = .ok (j', ps) d₂) :
    ∃ ino, j'.Clean d₂ ino ps ∧ j'.path = path ∧ (d.Numbered → d₂.Numbered) ∧ Disk.Keeps d d₂ ∧
      d₂.DirsAt (Disk.parent path) ∧ d₂.limited = d.limited ∧
      ∀ i, i < d.nextIno → (i ≠ ino ∨ ∃ qs, Frame.Whole (d.blob i) qs) → d₂.blob i = d.blob i := by
  rcases openPath_opened he hopen with ⟨ino, rfl, hopened⟩ | hfull
  · exact ⟨ino, hopened.recover he hrec⟩
  · -- the full device reads as no file, so recovery fails
    exact (recover_full hrec hfull).elim

end Journal

end ChangeLog
