import ChangeLog.Proofs.Disk.Paths
/-
  What writing, cutting and forcing out do to the files of a disk. Each operation on an open
  file has its run equation (`write_file_eq`, `write_full`, `setLen_file_of_le`,
  `syncData_file_eq`), and later proofs go through these.

  A write to a file that goes through appends all its bytes (`write_file_ok`). One that
  fails, under faults, has put down the bytes that fit below the size limit and nothing else
  (`write_file_error`): the file has grown by a prefix of what was written. The full device
  takes no byte. Forcing out changes no file; it fails only on the full device and, for
  the data just written, on a medium that fails its flushes. Cutting a file to a length
  within it keeps that many bytes, so a file that has only grown, cut back to its old
  length, gives the files back (`sameFiles_restore`).
-/

namespace ChangeLog

namespace Disk

section Blobs

variable (d : Disk) (ino : Nat) (bs : Bytes)

@[simp] theorem blob_setBlob_self : (d.setBlob ino bs).blob ino = bs := by
  simp [blob, setBlob]

@[simp] theorem lookup_setBlob (path : String) : (d.setBlob ino bs).lookup path = d.lookup path :=
  rfl

@[simp] theorem limited_setBlob : (d.setBlob ino bs).limited = d.limited := rfl

@[simp] theorem limit_setBlob : (d.setBlob ino bs).limit = d.limit := rfl

@[simp] theorem flushFails_setBlob : (d.setBlob ino bs).flushFails = d.flushFails := rfl

end Blobs

/-- Two disks name the same entries and hold the same bytes in every file. -/
structure SameFiles (d d' : Disk) : Prop where
  entries : d'.entries = d.entries
  blobs : ∀ ino, d'.blob ino = d.blob ino

namespace SameFiles

variable {d d' : Disk}

theorem refl (d : Disk) : d.SameFiles d := ⟨rfl, fun _ => rfl⟩

theorem trans {d₁ d₂ d₃ : Disk} (h₁ : d₁.SameFiles d₂) (h₂ : d₂.SameFiles d₃) : d₁.SameFiles d₃ :=
  ⟨h₂.entries.trans h₁.entries, fun ino => (h₂.blobs ino).trans (h₁.blobs ino)⟩

theorem lookup (h : d.SameFiles d') (path : String) : d'.lookup path = d.lookup path := by
  simp only [Disk.lookup, h.entries]

/-- A reader sees the same bytes under every name. -/
theorem readPath (h : d.SameFiles d') (path : String) : d'.readPath path = d.readPath path := by
  simp only [Disk.readPath, h.lookup, h.blobs]

theorem fileAt? (h : d.SameFiles d') (path : String) : d'.fileAt? path = d.fileAt? path := by
  simp only [Disk.fileAt?, h.lookup, h.blobs]

end SameFiles

/-- Putting a file's own bytes back, after any change to them, gives the files back. -/
theorem sameFiles_restore (d : Disk) (ino : Nat) (bs : Bytes) :
    d.SameFiles ((d.setBlob ino bs).setBlob ino (d.blob ino)) := by
  refine ⟨rfl, fun i => ?_⟩
  by_cases h : i = ino
  · subst h
    exact blob_setBlob_self _ _ _
  · rw [blob_setBlob_of_ne _ _ h, blob_setBlob_of_ne _ _ h]

section Writes

variable {d d' : Disk} {ino : Nat} {bs : Bytes}

/-- A write to a file goes through unless, under faults, it needs more room than is left;
then it puts down what fits and fails. -/
theorem write_file_eq (d : Disk) (ino : Nat) (bs : Bytes) :
    write (.file ino) bs d =
      if d.limited && d.room ino < bs.length then
        .error .fileTooLarge (d.setBlob ino (d.blob ino ++ bs.take (d.room ino)))
      else .ok () (d.setBlob ino (d.blob ino ++ bs)) := by
  show (if d.limited && d.room ino < bs.length then _ else _ : OnDisk IoError Unit) d = _
  split <;> rfl

/-- With no faults, a write to a file appends all its bytes. -/
theorem write_file (hfree : d.limited = false) (bs : Bytes) :
    write (.file ino) bs d = .ok () (d.setBlob ino (d.blob ino ++ bs)) := by
  rw [write_file_eq, hfree, Bool.false_and, if_neg (by decide)]

/-- A write to a file that goes through has appended all its bytes. -/
theorem write_file_ok {u : Unit} (h : write (.file ino) bs d = .ok u d') :
    d' = d.setBlob ino (d.blob ino ++ bs) := by
  rw [write_file_eq] at h
  split at h <;> cases h
  rfl

/-- A write to a file that fails has put down the bytes that fit, and only those. -/
theorem write_file_error {e : IoError} (h : write (.file ino) bs d = .error e d') :
    e = .fileTooLarge ∧ d' = d.setBlob ino (d.blob ino ++ bs.take (d.room ino)) := by
  rw [write_file_eq] at h
  split at h <;> cases h
  exact ⟨rfl, rfl⟩

/-- The full device takes nothing: it refuses every byte. -/
theorem write_full (d : Disk) (bs : Bytes) :
    write .full bs d = if bs.isEmpty then .ok () d else .error .noSpace d := by
  show (if bs.isEmpty then pure () else throw IoError.noSpace : OnDisk IoError Unit) d = _
  split <;> rfl

end Writes

theorem setLen_file_of_le {d : Disk} {ino n : Nat} (h : n ≤ (d.blob ino).length) :
    setLen (.file ino) n d = .ok () (d.setBlob ino ((d.blob ino).take n)) := by
  show (if n ≤ (d.blob ino).length then EStateM.set (d.setBlob ino ((d.blob ino).take n))
    else _) d = _
  rw [if_pos h]
  rfl

/-- A file that has grown, cut back to its old length, holds its old bytes again. -/
theorem setLen_file_grown (d : Disk) (ino : Nat) (extra : Bytes) :
    setLen (.file ino) (d.blob ino).length (d.setBlob ino (d.blob ino ++ extra)) =
      .ok () ((d.setBlob ino (d.blob ino ++ extra)).setBlob ino (d.blob ino)) := by
  rw [setLen_file_of_le (by simp), blob_setBlob_self, List.take_left]

theorem setLen_full (d : Disk) (n : Nat) : setLen .full n d = .error .invalidArgument d := rfl

theorem sync_file (d : Disk) (ino : Nat) : sync (.file ino) d = .ok () d := rfl

/-- Forcing out the data of a file fails exactly when, under faults, the medium fails its
flushes; it changes nothing either way. -/
theorem syncData_file_eq (d : Disk) (ino : Nat) :
    syncData (.file ino) d =
      if d.limited && d.flushFails then .error .inputOutput d else .ok () d := by
  show (if d.limited && d.flushFails then throw IoError.inputOutput else pure () :
    OnDisk IoError Unit) d = _
  split <;> rfl

theorem syncData_file {d : Disk} {ino : Nat} (hfree : d.limited = false) :
    syncData (.file ino) d = .ok () d := by
  rw [syncData_file_eq, hfree, Bool.false_and, if_neg (by decide)]

theorem syncData_full (d : Disk) : syncData .full d = .error .invalidArgument d := rfl

end Disk

end ChangeLog
