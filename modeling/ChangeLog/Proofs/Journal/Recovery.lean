import Mathlib
import ChangeLog.Proofs.Journal.Walk
import ChangeLog.Proofs.Disk.Files
import ChangeLog.Journal.Basic
/-
  Recovery of a journal, whatever bytes its file holds. A journal is on a file when its
  path names the file and its handle writes to it; recovery reads the one and cuts through
  the other.

  `recover_of_scan_error` and `recover_of_scan_ok` say what recovery does after each outcome
  of the scan. Main statement, `recover_repairs`: recovery either refuses at a position the
  frame walk reaches, where no frame starts but a valid frame starts later, and leaves the
  disk as it was; or it returns the payloads and cuts the file where the walk stopped, after
  which no valid frame starts anywhere. A second recovery then returns the same payloads and
  changes nothing.
-/

namespace ChangeLog

namespace Disk

theorem readPath_file {d : Disk} {path : String} {ino : Nat}
    (h : d.lookup path = some (.file ino)) (he : pathEnd path = .name) :
    d.readPath path = .ok (d.blob ino) := by
  simp [readPath, h, he]

/-- The one-letter name that the examples below keep a journal under is its own normal
form. -/
theorem normal_w : normal "w" = "w" := by decide

end Disk

/-- A journal is on a file when its path names the file and its handle writes to it. -/
structure Journal.OnFile (j : Journal) (d : Disk) (ino : Nat) : Prop where
  lookup : d.lookup j.path = some (.file ino)
  named : Disk.pathEnd j.path = .name
  handle : j.handle = .file ino

namespace Journal

variable {j : Journal} {d : Disk} {ino : Nat}

theorem OnFile.setBlob (hj : j.OnFile d ino) (ino' : Nat) (bs : Bytes) :
    j.OnFile (d.setBlob ino' bs) ino :=
  ⟨by rw [Disk.lookup_setBlob]; exact hj.lookup, hj.named, hj.handle⟩

theorem OnFile.withOffset (hj : j.OnFile d ino) (n : Nat) : { j with offset := n }.OnFile d ino :=
  ⟨hj.lookup, hj.named, hj.handle⟩

theorem recover_of_scan_error {p : Nat} (hj : j.OnFile d ino)
    (h : Frame.scan (d.blob ino) = .error p) :
    j.recover d = .error (.corrupt j.path p) d := by
  simp only [recover, bind, EStateM.bind, get, getThe, MonadStateOf.get, EStateM.get,
    Disk.readPath_file hj.lookup hj.named, pure, EStateM.pure, h, throw, throwThe,
    MonadExceptOf.throw, EStateM.throw]

theorem recover_of_scan_ok {t : Nat} {ps : List Bytes} (hj : j.OnFile d ino)
    (h : Frame.scan (d.blob ino) = .ok (ps, t)) :
    j.recover d =
      if t < (d.blob ino).length then
        .ok ({ j with offset := t }, ps) (d.setBlob ino ((d.blob ino).take t))
      else .ok (j, ps) d := by
  simp only [recover, bind, EStateM.bind, get, getThe, MonadStateOf.get, EStateM.get,
    Disk.readPath_file hj.lookup hj.named, pure, EStateM.pure, h]
  split
  · rename_i ht
    simp only [liftIo, hj.handle, EStateM.bind, EStateM.adaptExcept,
      Disk.setLen_file_of_le (Nat.le_of_lt ht), Disk.sync_file, EStateM.pure]
  · rfl

/-- Recovery over any content of the journal's file either refuses at a position that the
frame walk reaches, where no frame starts but a valid frame starts later, and leaves the disk
as it was; or it returns payloads and cuts the file where the walk stopped, from which on no
valid frame starts, and a second recovery returns the same payloads and changes nothing. -/
theorem recover_repairs (j : Journal) (d : Disk) (ino : Nat) (hj : j.OnFile d ino) :
    (∃ p, Frame.Walk (d.blob ino) p ∧ Frame.peel? ((d.blob ino).drop p) = none ∧
        (∃ q, p < q ∧ q < (d.blob ino).length ∧
          Frame.validAtFront ((d.blob ino).drop q) = true) ∧
        j.recover d = .error (.corrupt j.path p) d) ∨
    (∃ t ps, Frame.Walk (d.blob ino) t ∧ Frame.peel? ((d.blob ino).drop t) = none ∧
        (∀ q, t ≤ q → Frame.validAtFront ((d.blob ino).drop q) = false) ∧
        ∃ j' d', j.recover d = .ok (j', ps) d' ∧
          d' = (if t < (d.blob ino).length then d.setBlob ino ((d.blob ino).take t) else d) ∧
          d'.blob ino = (d.blob ino).take t ∧
          j'.recover d' = .ok (j', ps) d') := by
  cases hs : Frame.scan (d.blob ino) with
  | error e =>
    obtain ⟨p, rfl, hw, hnone, hvalid⟩ := Frame.scanFrom_error_walk hs
    rw [Nat.zero_add] at hs
    exact .inl ⟨p, hw, hnone, Frame.exists_valid_after hvalid, recover_of_scan_error hj hs⟩
  | ok r =>
    obtain ⟨ps, t⟩ := r
    obtain ⟨p, rfl, hw, hnone, hvalid⟩ := Frame.scanFrom_ok_walk hs
    -- the cut file scans to the same payloads and ends at the stop
    have hcut : Frame.scan ((d.blob ino).take p) = .ok (ps, p) := by
      have := Frame.scanFrom_take hs
      rwa [Nat.zero_add] at this
    rw [Nat.zero_add] at hs
    refine .inr ⟨p, ps, hw, hnone, Frame.validAtFront_of_stop hnone hvalid, ?_⟩
    have hlen : ((d.blob ino).take p).length = p := by
      simp only [List.length_take]
      exact Nat.min_eq_left hw.le_length
    by_cases ht : p < (d.blob ino).length
    · refine ⟨{ j with offset := p }, d.setBlob ino ((d.blob ino).take p), ?_, by rw [if_pos ht],
        by simp, ?_⟩
      · rw [recover_of_scan_ok hj hs, if_pos ht]
      · have hj' := (hj.withOffset p).setBlob ino ((d.blob ino).take p)
        rw [recover_of_scan_ok hj' (by simpa using hcut)]
        simp [hlen]
    · have hp : p = (d.blob ino).length := by have := hw.le_length; omega
      refine ⟨j, d, ?_, by rw [if_neg ht], by rw [hp, List.take_length], ?_⟩ <;>
        rw [recover_of_scan_ok hj hs, if_neg ht]

/-- A valid frame and two stray bytes after it: recovery cuts the stray bytes away. -/
theorem recover_repairs_stray_bytes :
    let d : Disk := { entries := [("w", .file 0)], blobs := [(0, Frame.encode [7] ++ [3, 0])] }
    let j : Journal := ⟨"w", .file 0, 11, .osDefault⟩
    j.OnFile d 0 ∧
    ((∃ p, Frame.Walk (d.blob 0) p ∧ Frame.peel? ((d.blob 0).drop p) = none ∧
        (∃ q, p < q ∧ q < (d.blob 0).length ∧
          Frame.validAtFront ((d.blob 0).drop q) = true) ∧
        j.recover d = .error (.corrupt j.path p) d) ∨
    (∃ t ps, Frame.Walk (d.blob 0) t ∧ Frame.peel? ((d.blob 0).drop t) = none ∧
        (∀ q, t ≤ q → Frame.validAtFront ((d.blob 0).drop q) = false) ∧
        ∃ j' d', j.recover d = .ok (j', ps) d' ∧
          d' = (if t < (d.blob 0).length then d.setBlob 0 ((d.blob 0).take t) else d) ∧
          d'.blob 0 = (d.blob 0).take t ∧
          j'.recover d' = .ok (j', ps) d')) := by
  intro d j
  have hj : j.OnFile d 0 := ⟨by simp [d, j, Disk.lookup, Disk.normal_w], by decide, rfl⟩
  exact ⟨hj, recover_repairs j d 0 hj⟩

end Journal
end ChangeLog
