import ChangeLog.Proofs.Disk.Files
import ChangeLog.Journal.Basic
/-
  Appending to a journal: one whole frame, or the files as they were. `append_eq` is the run
  of an append: it refuses a payload too long for the frame's 32-bit length field before
  anything is written, and otherwise writes the frame, forcing its data out when the mode
  asks; when that fails, it cuts the file back to the writer's count, passes over a failure
  to cut, and reports the failure.

  A frame that fails has left its file as it was but for bytes at its end: the bytes of the
  frame that fit below the size limit, or the whole frame when forcing it out failed
  (`writeFrame_error`). So as long as the writer's count is the file's length
  (`Journal.Fits`), cutting back to the count gives every file back, and a failed append
  changes no file (`append_error`). The only cut that fails is the cut of the full device,
  which took no byte. An append that goes through has written its whole frame at the end of
  the file (`append_ok_file`), and with no faults every append of a payload that fits goes
  through (`append_file`).
-/

namespace ChangeLog

namespace Journal

variable {j : Journal} {d d' : Disk} {ino : Nat}

/-- The run of an append. -/
theorem append_eq (j : Journal) (payload : Bytes) (d : Disk) :
    j.append payload d =
      if 4294967296 ≤ payload.length then .error (.serialization "record larger than 4 GiB") d
      else match j.writeFrame (Frame.encode payload) d with
        | .ok _ d₁ =>
          .ok ({ j with offset := j.offset + (Frame.encode payload).length }, j.offset) d₁
        | .error e d₁ =>
          match Disk.setLen j.handle j.offset d₁ with
          | .ok _ d₂ => .error (.io e) d₂
          | .error _ d₂ => .error (.io e) d₂ := by
  by_cases hlen : 4294967296 ≤ payload.length
  · simp only [append, hlen, if_true]
    rfl
  · simp only [append, hlen, if_false, bind, EStateM.bind, pure, EStateM.pure, tryCatch,
      tryCatchThe, MonadExceptOf.tryCatch, EStateM.tryCatch, liftIo, EStateM.adaptExcept,
      EStateM.Backtrackable.restore, EStateM.dummyRestore]
    rcases j.writeFrame (Frame.encode payload) d with ⟨u, d₁⟩ | ⟨e, d₁⟩
    · rfl
    · dsimp only
      rcases Disk.setLen j.handle j.offset d₁ with ⟨u, d₂⟩ | ⟨e', d₂⟩ <;> rfl

/-- A frame whose bytes are refused fails as the write did. -/
theorem writeFrame_of_write_error {frame : Bytes} {e : IoError} {d₁ : Disk}
    (hw : Disk.write j.handle frame d = .error e d₁) : j.writeFrame frame d = .error e d₁ := by
  simp only [writeFrame, bind, EStateM.bind, hw]

/-- A frame whose bytes are down is forced out when the mode asks. -/
theorem writeFrame_of_write_ok {frame : Bytes} {u : Unit} {d₁ : Disk}
    (hw : Disk.write j.handle frame d = .ok u d₁) :
    j.writeFrame frame d = if j.mode = .everyWrite then Disk.syncData j.handle d₁ else .ok () d₁ := by
  simp only [writeFrame, bind, EStateM.bind, hw]
  by_cases hm : j.mode = .everyWrite
  · rw [if_pos hm, if_pos hm]
  · rw [if_neg hm, if_neg hm]
    rfl

/-- A frame that cannot be written or forced out has left its file as it was but for bytes
at its end: those of the frame that fit, or the whole frame when forcing it out failed. The
full device takes nothing. -/
theorem writeFrame_error {frame : Bytes} {e : IoError} (h : j.writeFrame frame d = .error e d') :
    (j.handle = .full ∧ d' = d) ∨
      ∃ ino extra, j.handle = .file ino ∧ d' = d.setBlob ino (d.blob ino ++ extra) := by
  rcases hw : Disk.write j.handle frame d with ⟨u, d₁⟩ | ⟨e₁, d₁⟩
  · -- the bytes are down, and forcing them out failed, which changes nothing
    rw [writeFrame_of_write_ok hw] at h
    by_cases hm : j.mode = .everyWrite
    · rw [if_pos hm] at h
      cases hh : j.handle with
      | full =>
        rw [hh, Disk.write_full] at hw
        rw [hh, Disk.syncData_full] at h
        cases h
        split at hw <;> cases hw
        exact .inl ⟨rfl, rfl⟩
      | file ino =>
        rw [hh] at hw h
        rw [Disk.syncData_file_eq] at h
        split at h <;> cases h
        exact .inr ⟨ino, frame, rfl, Disk.write_file_ok hw⟩
    · rw [if_neg hm] at h
      cases h
  · -- the write refused: the full device takes nothing, a file the bytes that fit
    rw [writeFrame_of_write_error hw] at h
    cases h
    cases hh : j.handle with
    | full =>
      rw [hh, Disk.write_full] at hw
      split at hw <;> cases hw
      exact .inl ⟨rfl, rfl⟩
    | file ino =>
      rw [hh] at hw
      exact .inr ⟨ino, _, rfl, (Disk.write_file_error hw).2⟩

/-- A frame that goes through is in its file whole. -/
theorem writeFrame_ok_file {frame : Bytes} {u : Unit} (hh : j.handle = .file ino)
    (h : j.writeFrame frame d = .ok u d') : d' = d.setBlob ino (d.blob ino ++ frame) := by
  rcases hw : Disk.write j.handle frame d with ⟨u₁, d₁⟩ | ⟨e₁, d₁⟩
  · rw [writeFrame_of_write_ok hw] at h
    rw [hh] at hw
    rw [← Disk.write_file_ok hw]
    by_cases hm : j.mode = .everyWrite
    · rw [if_pos hm, hh, Disk.syncData_file_eq] at h
      split at h <;> cases h
      rfl
    · rw [if_neg hm] at h
      cases h
      rfl
  · rw [writeFrame_of_write_error hw] at h
    cases h

/-- The journal's count of the bytes of its file is the file's length. -/
def Fits (j : Journal) (d : Disk) : Prop := ∀ ino, j.handle = .file ino → (d.blob ino).length = j.offset

/-- An append that fails to a fitting journal leaves every file as it was. -/
theorem append_error {payload : Bytes} {e : StoreError} (hj : j.Fits d)
    (h : j.append payload d = .error e d') : d.SameFiles d' := by
  rw [append_eq] at h
  split at h
  · cases h
    exact .refl d
  · rcases hw : j.writeFrame (Frame.encode payload) d with ⟨u, d₁⟩ | ⟨e₁, d₁⟩ <;>
      rw [hw] at h <;> dsimp only at h
    · cases h
    · rcases writeFrame_error hw with ⟨hh, rfl⟩ | ⟨ino, extra, hh, rfl⟩
      · -- the full device took nothing, and its cut fails and is passed over
        rw [hh, Disk.setLen_full] at h
        cases h
        exact .refl _
      · -- the file is cut back to the count, which is where it ended
        rw [hh, ← hj ino hh, Disk.setLen_file_grown] at h
        cases h
        exact Disk.sameFiles_restore d ino _

/-- Under faults, an append whose frame needs more room than its file has left is torn: the
bytes that fit are written and cut away again, and the append fails as too large. -/
theorem append_torn {payload : Bytes} (hj : j.Fits d) (hh : j.handle = .file ino)
    (hlim : d.limited = true) (hroom : d.room ino < (Frame.encode payload).length)
    (hlen : payload.length < 4294967296) :
    j.append payload d =
      .error (.io .fileTooLarge)
        ((d.setBlob ino (d.blob ino ++ (Frame.encode payload).take (d.room ino))).setBlob ino
          (d.blob ino)) := by
  have hw : Disk.write j.handle (Frame.encode payload) d =
      .error .fileTooLarge (d.setBlob ino (d.blob ino ++ (Frame.encode payload).take (d.room ino))) := by
    rw [hh, Disk.write_file_eq, hlim, Bool.true_and, if_pos (decide_eq_true hroom)]
  rw [append_eq, if_neg (Nat.not_le.2 hlen), writeFrame_of_write_error hw]
  dsimp only
  rw [hh, ← hj ino hh, Disk.setLen_file_grown]

/-- An append to a journal on a file that goes through has written the whole frame at the
end of the file, and answers the count before it. -/
theorem append_ok_file {payload : Bytes} {r : Journal × Nat} (hh : j.handle = .file ino)
    (h : j.append payload d = .ok r d') :
    r = ({ j with offset := j.offset + (Frame.encode payload).length }, j.offset) ∧
      d' = d.setBlob ino (d.blob ino ++ Frame.encode payload) := by
  rw [append_eq] at h
  split at h
  · cases h
  · rcases hw : j.writeFrame (Frame.encode payload) d with ⟨u, d₁⟩ | ⟨e₁, d₁⟩ <;>
      rw [hw] at h <;> dsimp only at h
    · cases h
      exact ⟨rfl, writeFrame_ok_file hh hw⟩
    · split at h <;> cases h

/-- With no faults, an append of a payload that fits a frame writes the frame at the end of
the file and answers the writer's count as its position. -/
theorem append_file (hh : j.handle = .file ino) (hfree : d.limited = false) {payload : Bytes}
    (hlen : payload.length < 4294967296) :
    j.append payload d =
      .ok ({ j with offset := j.offset + (Frame.encode payload).length }, j.offset)
        (d.setBlob ino (d.blob ino ++ Frame.encode payload)) := by
  have hw : j.writeFrame (Frame.encode payload) d =
      .ok () (d.setBlob ino (d.blob ino ++ Frame.encode payload)) := by
    rw [writeFrame_of_write_ok (by rw [hh]; exact Disk.write_file hfree _)]
    split
    · rw [hh]
      exact Disk.syncData_file (by rw [Disk.limited_setBlob, hfree])
    · rfl
  rw [append_eq, if_neg (Nat.not_le.2 hlen), hw]

end Journal

end ChangeLog
