import Mathlib
import ChangeLog.Proofs.Disk.Paths
import ChangeLog.Proofs.Journal.Cut
/-
  Journals opened on a disk and kept whole. Opening a journal makes the directories above
  its path and opens the path for appending (`openPath_ok`, `openPath_of`). On a name that
  holds nothing this creates an empty file and gives a journal on it that has counted no
  bytes (`openPath_fresh`), which it does whenever the directories above are in place
  (`openPath_create`); on the name of a file, with the directories above it in place,
  it changes nothing and counts the file's length (`openPath_file`); a directory does not
  open (`openPath_dir`).

  A journal holds payloads when its file is their frames one after another and its count is
  the file's length (`Journal.Holds`). On a disk with room an append then holds one more
  payload and writes to no other file (`Holds.append`), recovery reads the payloads back
  and changes nothing (`Holds.recover`), and the journal opens again on its file holding the
  same payloads (`Holds.reopen`).
-/

namespace ChangeLog

namespace Frame

/-- Payloads written as frames, one after another. -/
def framed (ps : List Bytes) : Bytes := ps.flatMap encode

@[simp] theorem framed_nil : framed [] = [] := rfl

theorem framed_append (ps qs : List Bytes) : framed (ps ++ qs) = framed ps ++ framed qs := by
  simp [framed]

/-- Payloads written as frames are the frames written for the payloads themselves. -/
theorem framed_eq_written (ps : List Bytes) :
    framed ps = written id (ps.map fun p => (p, p)) := by
  simp only [framed, written, List.flatMap_map]
  rfl

/-- Frames of payloads that fit scan back to the payloads, up to their end. -/
theorem scan_framed {ps : List Bytes} (hps : ∀ p ∈ ps, 0 < p.length ∧ p.length < 4294967296) :
    scan (framed ps) = .ok (ps, (framed ps).length) := by
  have hstored : ∀ x ∈ ps.map (fun p => (p, p)), Stored id x := by
    intro x hx
    obtain ⟨p, hp, rfl⟩ := List.mem_map.1 hx
    exact ⟨(hps p hp).1, (hps p hp).2, rfl, .inl rfl⟩
  have hintact : intact id (ps.map fun p => (p, p)) = ps := by
    simp [intact, List.filter_map, Function.comp_def]
  rw [framed_eq_written, scan_written id hstored, hintact, List.map_id]

end Frame

namespace Journal

variable {path : String} {mode : SyncMode} {d d' : Disk} {j : Journal}

/-- An opening that succeeds made the directories above the path and opened the path. -/
theorem openPath_ok (h : openPath path mode d = .ok j d') :
    ∃ d₁ hd, Disk.createDirAll (Disk.parent path) d = .ok () d₁ ∧
      Disk.openAppend path d₁ = .ok hd d' ∧ j = ⟨path, hd, d'.handleLength hd, mode⟩ := by
  simp only [openPath, bind, EStateM.bind, liftIo, EStateM.adaptExcept] at h
  rcases hc : Disk.createDirAll (Disk.parent path) d with ⟨⟨⟩, d₁⟩ | ⟨e, d₁⟩ <;>
    simp only [hc] at h
  · rcases ho : Disk.openAppend path d₁ with ⟨hd, d₂⟩ | ⟨e, d₂⟩ <;> simp only [ho] at h
    · cases h
      exact ⟨d₁, hd, rfl, ho, rfl⟩
    · cases h
  · cases h

theorem openPath_of {d₁ : Disk} {hd : Handle} (hc : Disk.createDirAll (Disk.parent path) d = .ok () d₁)
    (ho : Disk.openAppend path d₁ = .ok hd d') :
    openPath path mode d = .ok ⟨path, hd, d'.handleLength hd, mode⟩ d' := by
  simp only [openPath, bind, EStateM.bind, liftIo, EStateM.adaptExcept, hc, ho]
  rfl

/-- A journal opens on the file a path names, with the directories above it in place,
changing nothing and counting the file's length. -/
theorem openPath_file {ino : Nat} (hdirs : d.DirsAt (Disk.parent path))
    (hl : d.lookup path = some (.file ino)) (he : Disk.pathEnd path = .name) :
    openPath path mode d = .ok ⟨path, .file ino, (d.blob ino).length, mode⟩ d :=
  openPath_of (Disk.createDirAll_of_dirsAt hdirs) (Disk.openAppend_file hl he)

/-- A journal opens on a name that holds nothing, below directories that are there, on a
new empty file. -/
theorem openPath_create (hdirs : d.DirsAt (Disk.parent path)) (hl : d.lookup path = none)
    (he : Disk.pathEnd path = .name) :
    openPath path mode d = .ok ⟨path, .file d.nextIno, 0, mode⟩ (d.createFile path).1 := by
  rw [openPath_of (Disk.createDirAll_of_dirsAt hdirs) (Disk.openAppend_create hl he hdirs.lookup)]
  simp [Disk.handleLength, Disk.blob_createFile]

/-- A path that names a directory does not open as a journal. -/
theorem openPath_dir (hl : d.lookup path = some .dir) (he : Disk.pathEnd path = .name)
    (h : openPath path mode d = .ok j d') : False := by
  obtain ⟨d₁, hd, hc, ho, -⟩ := openPath_ok h
  have hl₁ : d₁.lookup path = some .dir := by
    rw [(Disk.createDirAll_ok hc).1.keeps path (by simp [hl]), hl]
  rw [Disk.openAppend_dir hl₁ he] at ho
  cases ho

/-- What opening a journal on a name that holds nothing leaves: a new empty file under the
name, the directories above it, and every other name and file as it was or, for a name
that held nothing, a directory. -/
structure Fresh (d d' : Disk) (path : String) (ino : Nat) : Prop where
  lookup : d'.lookup path = some (.file ino)
  empty : d'.blob ino = []
  blobs : ∀ i, i ≠ ino → d'.blob i = d.blob i
  nextIno : d'.nextIno = ino + 1
  limited : d'.limited = d.limited
  keeps : Disk.Keeps d d'
  dirs : ∀ q, Disk.normal q ≠ Disk.normal path → d.lookup q = none →
    d'.lookup q = none ∨ d'.lookup q = some .dir
  dirsAt : d'.DirsAt (Disk.parent path)

/-- A journal opened on a name that holds no file is on a new empty file there, and has
counted no bytes: the name held nothing, as a directory does not open. -/
theorem openPath_fresh (hl : d.lookup path = none ∨ d.lookup path = some .dir)
    (he : Disk.pathEnd path = .name) (h : openPath path mode d = .ok j d') :
    j = ⟨path, .file d.nextIno, 0, mode⟩ ∧ Fresh d d' path d.nextIno := by
  rcases hl with hl | hl
  case inr => exact (openPath_dir hl he h).elim
  obtain ⟨d₁, hd, hc, ho, rfl⟩ := openPath_ok h
  obtain ⟨hmade, hdirs⟩ := Disk.createDirAll_ok hc
  -- the directories made on the way are not the path, which holds nothing still
  have hl₁ : d₁.lookup path = none := by
    rcases hmade.new path hl with h₁ | h₁
    · exact h₁
    · rw [Disk.openAppend_dir h₁ he] at ho
      cases ho
  obtain ⟨-, rfl, rfl⟩ := Disk.openAppend_fresh hl₁ he ho
  have hsame := hmade.same
  have hino : d₁.nextIno = d.nextIno := by rw [hsame]
  have hblob : ∀ i, d₁.blob i = d.blob i := fun i => by rw [hsame]; rfl
  refine ⟨by simp [Disk.handleLength, Disk.blob_createFile, hino], ?_⟩
  refine ⟨?_, ?_, ?_, ?_, ?_, ?_, ?_, ?_⟩
  · rw [Disk.lookup_createFile, if_neg, if_pos rfl, hino]
    intro h0
    rw [Disk.lookup_empty_path d h0] at hl
    cases hl
  · simp [Disk.blob_createFile, hino]
  · intro i hi
    simp [Disk.blob_createFile, hino, hi, hblob]
  · simp [hino]
  · rw [Disk.limited_createFile, hsame]
  · exact hmade.keeps.trans (Disk.keeps_createFile hl₁)
  · intro q hq hq₀
    rw [Disk.lookup_createFile, if_neg hq]
    split_ifs
    · exact .inr rfl
    · exact hmade.new q hq₀
  · exact hdirs.keeps (Disk.keeps_createFile hl₁)

/-- A journal holds payloads when its file is their frames and its count is the file's
length; every payload fits a frame. -/
structure Holds (j : Journal) (d : Disk) (ino : Nat) (ps : List Bytes) : Prop where
  onFile : j.OnFile d ino
  file : d.blob ino = Frame.framed ps
  counted : j.offset = (Frame.framed ps).length
  fit : ∀ p ∈ ps, 0 < p.length ∧ p.length < 4294967296

variable {ino : Nat} {ps : List Bytes}

/-- Writing another file leaves a journal holding what it held. -/
theorem Holds.setBlob (h : j.Holds d ino ps) {ino' : Nat} (bs : Bytes) (hne : ino' ≠ ino) :
    j.Holds (d.setBlob ino' bs) ino ps :=
  ⟨h.onFile.setBlob ino' bs, by rw [Disk.blob_setBlob_of_ne _ _ (Ne.symm hne), h.file], h.counted,
    h.fit⟩

/-- On a disk with room, appending a payload that fits a frame writes its frame after the
others, answers the count before it, and holds one more payload. -/
theorem Holds.append (h : j.Holds d ino ps) (hfree : d.limited = false) {p : Bytes}
    (hp : 0 < p.length ∧ p.length < 4294967296) :
    j.append p d = .ok ({ j with offset := j.offset + (Frame.encode p).length }, j.offset)
        (d.setBlob ino (Frame.framed (ps ++ [p]))) ∧
      Holds { j with offset := j.offset + (Frame.encode p).length }
        (d.setBlob ino (Frame.framed (ps ++ [p]))) ino (ps ++ [p]) := by
  have hframes : d.blob ino ++ Frame.encode p = Frame.framed (ps ++ [p]) := by
    rw [h.file, Frame.framed_append]
    simp [Frame.framed]
  refine ⟨by rw [append_file h.onFile.handle hfree hp.2, hframes], ?_, by simp, ?_, ?_⟩
  · exact (h.onFile.withOffset _).setBlob ino _
  · rw [h.counted, ← hframes, h.file]
    simp
  · intro q hq
    rcases List.mem_append.1 hq with hq | hq
    · exact h.fit q hq
    · rw [List.mem_singleton.1 hq]
      exact hp

/-- A journal that holds payloads recovers them and changes nothing. -/
theorem Holds.recover (h : j.Holds d ino ps) : j.recover d = .ok (j, ps) d := by
  rw [recover_of_scan_ok h.onFile (by rw [h.file]; exact Frame.scan_framed h.fit), h.file,
    if_neg (Nat.lt_irrefl _)]

/-- A journal opened on a new file holds nothing. -/
theorem Fresh.holds (hf : Fresh d d' path ino) (he : Disk.pathEnd path = .name) :
    Holds ⟨path, .file ino, 0, mode⟩ d' ino [] :=
  ⟨⟨hf.lookup, he, rfl⟩, by rw [hf.empty]; rfl, rfl, by simp⟩

/-- A journal opened on a name that holds nothing, below directories that are there, holds
no payloads. -/
theorem Holds.create (hdirs : d.DirsAt (Disk.parent path)) (hl : d.lookup path = none)
    (he : Disk.pathEnd path = .name) :
    Holds ⟨path, .file d.nextIno, 0, mode⟩ (d.createFile path).1 d.nextIno [] :=
  (openPath_fresh (.inl hl) he (openPath_create hdirs hl he : openPath path mode d = _)).2.holds he

/-- Opening another new file leaves a journal holding what it held. -/
theorem Holds.fresh (h : j.Holds d ino ps) {path : String} {ino' : Nat}
    (hf : Fresh d d' path ino') (hne : ino ≠ ino') : j.Holds d' ino ps := by
  refine ⟨⟨?_, h.onFile.named, h.onFile.handle⟩, by rw [hf.blobs ino hne, h.file], h.counted,
    h.fit⟩
  rw [hf.keeps _ (by simp [h.onFile.lookup]), h.onFile.lookup]

/-- A journal that holds payloads, with the directories above its path in place, opens
again on its file, changing nothing, and the journal opened holds the same payloads. -/
theorem Holds.reopen (h : j.Holds d ino ps) (hdirs : d.DirsAt (Disk.parent j.path))
    (m : SyncMode) :
    openPath j.path m d = .ok ⟨j.path, .file ino, (d.blob ino).length, m⟩ d ∧
      Holds ⟨j.path, .file ino, (d.blob ino).length, m⟩ d ino ps :=
  ⟨openPath_file hdirs h.onFile.lookup h.onFile.named,
    ⟨⟨h.onFile.lookup, h.onFile.named, rfl⟩, h.file, by rw [h.file], h.fit⟩⟩

end Journal

end ChangeLog
