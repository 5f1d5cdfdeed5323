import ChangeLog.Journal.Frame
/-
  The frame walk of a journal file. From the first byte the walk steps over each whole
  frame by its length field, whether its checksum matches or not, and it stops at the first
  position where no whole frame starts. `Walk bs p` says that the walk over `bs` reaches p.

  `peel?_eq_some_iff` says in plain bytes what it means to read a frame at the front: a
  header of eight bytes whose first four give the payload's length, then the payload. A
  frame read at the front of some bytes is therefore read the same way from the front of
  any bytes that begin with it (`peel?_append`, `peel?_take`), and not at all from a cut
  that ends inside it (`peel?_take_of_lt`).

  The scan is then described by the walk: `scanFrom_error_walk` and `scanFrom_ok_walk` say
  where a failed and a finished scan stopped, and `scanFrom_take` that a finished scan
  reads the file cut at its stop in the same way, so that recovery can be run twice.
-/

namespace ChangeLog.Frame

theorem peel?_eq_some_iff {bs payload rest : Bytes} {crc : Nat} :
    peel? bs = some (crc, payload, rest) ↔
      ∃ header : Bytes, header.length = headerSize ∧ bs = header ++ payload ++ rest ∧
        Le.value (header.take 4) = payload.length ∧ 0 < payload.length ∧
        Le.value (header.drop 4) = crc := by
  constructor
  · intro h
    unfold peel? at h
    split at h
    · rename_i b0 b1 b2 b3 c0 c1 c2 c3 body
      split at h
      · simp at h
      · rename_i h0
        split at h
        · rename_i hle
          simp only [Option.some.injEq, Prod.mk.injEq] at h
          obtain ⟨rfl, rfl, rfl⟩ := h
          refine ⟨[b0, b1, b2, b3, c0, c1, c2, c3], rfl, by simp, ?_, ?_, rfl⟩
          · simp only [List.take, List.length_take]
            omega
          · simp only [List.length_take]
            omega
        · simp at h
    · simp at h
  · rintro ⟨header, hlen, rfl, hval, hpos, hcrc⟩
    match header, hlen with
    | [b0, b1, b2, b3, c0, c1, c2, c3], _ =>
      simp only [List.take, List.drop] at hval hcrc
      have hne : payload ≠ [] := List.ne_nil_of_length_pos hpos
      simp [peel?, hval, hcrc, hne]

theorem peel?_append {xs ys payload rest : Bytes} {crc : Nat}
    (h : peel? xs = some (crc, payload, rest)) :
    peel? (xs ++ ys) = some (crc, payload, rest ++ ys) := by
  obtain ⟨header, hlen, rfl, hval, hpos, hcrc⟩ := peel?_eq_some_iff.1 h
  exact peel?_eq_some_iff.2 ⟨header, hlen, by simp, hval, hpos, hcrc⟩

theorem peel?_drop {bs payload rest : Bytes} {crc : Nat}
    (h : peel? bs = some (crc, payload, rest)) :
    rest = bs.drop (headerSize + payload.length) := by
  obtain ⟨header, hlen, rfl, -, -, -⟩ := peel?_eq_some_iff.1 h
  simp [← hlen, List.drop_append]

theorem peel?_take {bs payload rest : Bytes} {crc : Nat} (n : Nat)
    (h : peel? bs = some (crc, payload, rest)) (hn : headerSize + payload.length ≤ n) :
    peel? (bs.take n) = some (crc, payload, rest.take (n - (headerSize + payload.length))) := by
  obtain ⟨header, hlen, rfl, hval, hpos, hcrc⟩ := peel?_eq_some_iff.1 h
  obtain ⟨m, rfl⟩ : ∃ m, n = headerSize + payload.length + m :=
    ⟨n - (headerSize + payload.length), by omega⟩
  have hl : (header ++ payload).length = headerSize + payload.length := by simp [hlen]
  rw [Nat.add_sub_cancel_left, List.take_add, List.take_left' hl, List.drop_left' hl]
  exact peel?_eq_some_iff.2 ⟨header, hlen, rfl, hval, hpos, hcrc⟩

/-- Bytes cut inside the frame at their front hold no whole frame there. -/
theorem peel?_take_of_lt {bs payload rest : Bytes} {crc n : Nat}
    (h : peel? bs = some (crc, payload, rest)) (hn : n < headerSize + payload.length) :
    peel? (bs.take n) = none := by
  obtain ⟨header, hlen, rfl, hval, -, -⟩ := peel?_eq_some_iff.1 h
  cases hc : peel? ((header ++ payload ++ rest).take n) with
  | none => rfl
  | some r =>
    obtain ⟨crc', payload', rest'⟩ := r
    obtain ⟨header', hlen', he, hval', -, -⟩ := peel?_eq_some_iff.1 hc
    have hcut := congrArg List.length he
    simp only [List.length_take, List.length_append, hlen'] at hcut
    -- the cut begins with the same eight bytes, so it announces the same payload length
    have hh : header' = header := by
      have := congrArg (List.take headerSize) he
      rw [List.take_take, Nat.min_eq_left (by omega), List.append_assoc, List.append_assoc,
        List.take_left' hlen'] at this
      rw [← this, List.take_left' hlen]
    subst hh
    have hsame : payload'.length = payload.length := hval'.symm.trans hval
    omega

/-! ## The scan, one frame at a time -/

theorem scanFrom_nil (pos : Nat) : scanFrom pos [] = .ok ([], pos) := by
  rw [scanFrom]

theorem scanFrom_of_peel_none {pos : Nat} {b : UInt8} {rest : Bytes}
    (h : peel? (b :: rest) = none) :
    scanFrom pos (b :: rest) = if validSomewhere rest then .error pos else .ok ([], pos) := by
  rw [scanFrom]
  split
  · rfl
  · rename_i h'
    rw [h] at h'
    cases h'

theorem scanFrom_of_peel {pos crc : Nat} {bs payload after : Bytes}
    (h : peel? bs = some (crc, payload, after)) :
    scanFrom pos bs =
      if crc == (Crc32.checksum payload).toNat then
        (scanFrom (pos + headerSize + payload.length) after).map fun r => (payload :: r.1, r.2)
      else scanFrom (pos + headerSize + payload.length) after := by
  obtain ⟨b, rest, rfl⟩ : ∃ b rest, bs = b :: rest := by
    cases bs with
    | nil => simp [peel?] at h
    | cons b rest => exact ⟨b, rest, rfl⟩
  rw [scanFrom]
  split
  · rename_i h'
    rw [h] at h'
    cases h'
  · rename_i crc' payload' after' h'
    rw [h] at h'
    simp only [Option.some.injEq, Prod.mk.injEq] at h'
    obtain ⟨rfl, rfl, rfl⟩ := h'
    rfl

/-- Where no whole frame starts at the first byte, the scan stops at once: it is corrupt
there if a valid frame starts at any later byte. -/
theorem scan_of_peel_none {bs : Bytes} (h : peel? bs = none) :
    scan bs = if validSomewhere bs.tail then .error 0 else .ok ([], 0) := by
  cases bs with
  | nil => exact scanFrom_nil 0
  | cons b rest => exact scanFrom_of_peel_none h

/-! ## The walk -/

/-- The frame walk from the first byte reaches a position; it steps over every whole frame,
whether its checksum matches or not. -/
inductive Walk (bs : Bytes) : Nat → Prop where
  | start : Walk bs 0
  | step {p crc : Nat} {payload rest : Bytes} :
      Walk bs p → peel? (bs.drop p) = some (crc, payload, rest) →
      Walk bs (p + headerSize + payload.length)

/-- A walk over the bytes after a reached position continues the walk over the whole. -/
theorem Walk.shift {bs : Bytes} {m p : Nat} (hm : Walk bs m) (h : Walk (bs.drop m) p) :
    Walk bs (m + p) := by
  induction h with
  | start => exact hm
  | @step p crc payload rest _ hpeel ih =>
    rw [List.drop_drop] at hpeel
    have e : m + (p + headerSize + payload.length) = m + p + headerSize + payload.length := by
      omega
    rw [e]
    exact Walk.step ih hpeel

theorem Walk.le_length {bs : Bytes} {p : Nat} (h : Walk bs p) : p ≤ bs.length := by
  induction h with
  | start => exact Nat.zero_le _
  | step _ hpeel _ =>
    have := (peel?_length hpeel).1
    simp only [List.length_drop] at this
    omega

/-- The walk steps over a whole frame at the front and goes on over the bytes after it. -/
theorem Walk.of_peel {bs payload after : Bytes} {crc p : Nat}
    (h : peel? bs = some (crc, payload, after)) (hw : Walk after p) :
    Walk bs (headerSize + payload.length + p) := by
  have first : Walk bs (headerSize + payload.length) := by
    have := Walk.step (@Walk.start bs) (by rwa [List.drop_zero])
    rwa [Nat.zero_add] at this
  rw [peel?_drop h] at hw
  exact first.shift hw

theorem drop_of_peel {bs payload after : Bytes} {crc : Nat} (p : Nat)
    (h : peel? bs = some (crc, payload, after)) :
    bs.drop (headerSize + payload.length + p) = after.drop p := by
  rw [peel?_drop h, List.drop_drop]

theorem validSomewhere_iff (bs : Bytes) :
    validSomewhere bs = true ↔ ∃ q < bs.length, validAtFront (bs.drop q) = true := by
  induction bs with
  | nil => simp [validSomewhere]
  | cons b rest ih =>
    simp only [validSomewhere, Bool.or_eq_true, ih, List.length_cons]
    constructor
    · rintro (h | ⟨q, hq, h⟩)
      · exact ⟨0, by omega, h⟩
      · exact ⟨q + 1, by omega, h⟩
    · rintro ⟨q, hq, h⟩
      cases q with
      | zero => exact .inl h
      | succ q => exact .inr ⟨q, by omega, h⟩

theorem exists_valid_after {bs : Bytes} {p : Nat} (h : validSomewhere (bs.drop (p + 1)) = true) :
    ∃ q, p < q ∧ q < bs.length ∧ validAtFront (bs.drop q) = true := by
  obtain ⟨q, hq, hv⟩ := (validSomewhere_iff _).1 h
  rw [List.drop_drop] at hv
  simp only [List.length_drop] at hq
  exact ⟨p + 1 + q, by omega, by omega, hv⟩

theorem validSomewhere_drop_iff (bs : Bytes) (p : Nat) :
    validSomewhere (bs.drop (p + 1)) = true ↔ ∃ q, p < q ∧ validAtFront (bs.drop q) = true := by
  constructor
  · intro h
    obtain ⟨q, hq, -, hv⟩ := exists_valid_after h
    exact ⟨q, hq, hv⟩
  · rintro ⟨q, hq, hv⟩
    rcases Nat.lt_or_ge q bs.length with hin | hout
    · rw [validSomewhere_iff]
      refine ⟨q - (p + 1), by simp; omega, ?_⟩
      rwa [List.drop_drop, show p + 1 + (q - (p + 1)) = q by omega]
    · rw [List.drop_eq_nil_of_le hout] at hv
      simp [validAtFront, peel?] at hv

/-- Where no frame starts and no valid frame starts after, no valid frame starts at all. -/
theorem validAtFront_of_stop {bs : Bytes} {t : Nat} (hnone : peel? (bs.drop t) = none)
    (hafter : validSomewhere (bs.drop (t + 1)) = false) :
    ∀ q, t ≤ q → validAtFront (bs.drop q) = false := by
  intro q hq
  rcases Nat.eq_or_lt_of_le hq with rfl | hlt
  · simp [validAtFront, hnone]
  · cases hv : validAtFront (bs.drop q) with
    | false => rfl
    | true =>
      have := (validSomewhere_drop_iff bs t).2 ⟨q, hlt, hv⟩
      rw [hafter] at this
      cases this

/-! ## Where the scan stops -/

theorem scanFrom_error_walk {pos e : Nat} {bs : Bytes} (h : scanFrom pos bs = .error e) :
    ∃ p, e = pos + p ∧ Walk bs p ∧ peel? (bs.drop p) = none ∧
      validSomewhere (bs.drop (p + 1)) = true := by
  fun_induction scanFrom pos bs with
  | case1 pos => cases h
  | case2 pos b rest hpeel hvalid =>
    cases h
    exact ⟨0, rfl, .start, hpeel, hvalid⟩
  | case3 => cases h
  | case4 pos b rest crc payload after hpeel _ more _ ih =>
    cases hm : more with
    | ok r => rw [hm] at h; cases h
    | error e' =>
      rw [hm] at h
      cases h
      obtain ⟨p, rfl, hw, hnone, hvalid⟩ := ih hm
      refine ⟨headerSize + payload.length + p, by omega, Walk.of_peel hpeel hw, ?_, ?_⟩
      · rwa [drop_of_peel p hpeel]
      · rwa [Nat.add_assoc, drop_of_peel (p + 1) hpeel]
  | case5 pos b rest crc payload after hpeel _ more _ ih =>
    obtain ⟨p, rfl, hw, hnone, hvalid⟩ := ih h
    refine ⟨headerSize + payload.length + p, by omega, Walk.of_peel hpeel hw, ?_, ?_⟩
    · rwa [drop_of_peel p hpeel]
    · rwa [Nat.add_assoc, drop_of_peel (p + 1) hpeel]

theorem scanFrom_ok_walk {pos t : Nat} {bs : Bytes} {ps : List Bytes}
    (h : scanFrom pos bs = .ok (ps, t)) :
    ∃ p, t = pos + p ∧ Walk bs p ∧ peel? (bs.drop p) = none ∧
      validSomewhere (bs.drop (p + 1)) = false := by
  fun_induction scanFrom pos bs generalizing ps t with
  | case1 pos =>
    cases h
    exact ⟨0, rfl, .start, rfl, rfl⟩
  | case2 => cases h
  | case3 pos b rest hpeel hvalid =>
    cases h
    exact ⟨0, rfl, .start, hpeel, by simpa using hvalid⟩
  | case4 pos b rest crc payload after hpeel _ more hcrc =>
    rename_i ih
    cases hm : more with
    | error e => rw [hm] at h; cases h
    | ok r =>
      rw [hm] at h
      cases h
      obtain ⟨p, hp, hw, hnone, hvalid⟩ := ih hm
      refine ⟨headerSize + payload.length + p, by omega, Walk.of_peel hpeel hw, ?_, ?_⟩
      · rwa [drop_of_peel p hpeel]
      · rwa [Nat.add_assoc, drop_of_peel (p + 1) hpeel]
  | case5 pos b rest crc payload after hpeel _ more hcrc =>
    rename_i ih
    obtain ⟨p, hp, hw, hnone, hvalid⟩ := ih h
    refine ⟨headerSize + payload.length + p, by omega, Walk.of_peel hpeel hw, ?_, ?_⟩
    · rwa [drop_of_peel p hpeel]
    · rwa [Nat.add_assoc, drop_of_peel (p + 1) hpeel]

/-- A finished scan reads the bytes cut at its stop in the same way: every frame it visited
lies wholly before the stop. -/
theorem scanFrom_take {pos t : Nat} {bs : Bytes} {ps : List Bytes}
    (h : scanFrom pos bs = .ok (ps, pos + t)) : scanFrom pos (bs.take t) = .ok (ps, pos + t) := by
  fun_induction scanFrom pos bs generalizing ps t with
  | case1 pos => rw [List.take_nil, scanFrom_nil]; exact h
  | case2 => cases h
  | case3 pos b rest hpeel hvalid =>
    simp only [Except.ok.injEq, Prod.mk.injEq] at h
    obtain ⟨rfl, ht⟩ := h
    rw [show t = 0 by omega, List.take_zero, scanFrom_nil]
    rfl
  | case4 pos b rest crc payload after hpeel _ more hcrc =>
    rename_i ih
    cases hm : more with
    | error e => rw [hm] at h; cases h
    | ok r =>
      obtain ⟨ps', t'⟩ := r
      rw [hm] at h
      simp only [Except.map, Except.ok.injEq, Prod.mk.injEq] at h
      obtain ⟨rfl, rfl⟩ := h
      obtain ⟨p, hp, -⟩ := scanFrom_ok_walk hm
      rw [hp] at hm
      have hcut := peel?_take t hpeel (by omega)
      rw [show t - (headerSize + payload.length) = p by omega] at hcut
      rw [scanFrom_of_peel hcut, if_pos hcrc, ih hm, hp]
      rfl
  | case5 pos b rest crc payload after hpeel _ more hcrc =>
    rename_i ih
    obtain ⟨p, hp, -⟩ := scanFrom_ok_walk h
    rw [hp] at h
    have hcut := peel?_take t hpeel (by omega)
    rw [show t - (headerSize + payload.length) = p by omega] at hcut
    rw [scanFrom_of_peel hcut, if_neg hcrc, ih h, hp]

end ChangeLog.Frame
