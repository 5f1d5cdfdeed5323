import ChangeLog.Proofs.Journal.Recovery
import ChangeLog.Proofs.Journal.Append
import ChangeLog.Script.Journal
/-
  Recovery of a journal of records after a crash cut its file. Records of any type are
  written as the payloads of frames by an encoding that a decoding undoes. The file holds
  the frames of some records in order, some of whose payloads may have been overwritten
  since by bytes of the same length that fail the checksum, and it has been cut after any
  number of bytes. The frames wholly before the cut are the whole frames; what follows them
  is the torn frame.

  `scan_cut` says what the scan of such a file gives: the payloads of the whole frames
  that are intact, stopping at the end of the whole frames, unless a valid frame starts
  inside the torn frame, where the scan reports the end of the whole frames as corrupt.
  Recovery does not tell a torn frame that holds the bytes of a valid frame from damage
  with intact frames after it.

  Main statement, `recover_cut`: a journal opened on such a file recovers the intact
  records of the whole frames and cuts the torn frame away; an append then lands at the end
  of the whole frames and a second recovery adds its record. When a valid frame starts
  inside the torn frame, recovery instead refuses at the end of the whole frames and leaves
  the disk as it was. `append_recover_whole` is the step after recovery: on a file of whole
  frames, an append lands at their end and recovery reads its record after the others.
-/

namespace ChangeLog

namespace Frame

/-- The header a frame of a payload is written with: the length, then the checksum. -/
def header (payload : Bytes) : Bytes :=
  Le.u32 payload.length ++ Le.u32 (Crc32.checksum payload).toNat

theorem encode_eq_header (payload : Bytes) : encode payload = header payload ++ payload := rfl

@[simp] theorem header_length (payload : Bytes) : (header payload).length = headerSize := by
  simp [header, Le.u32, headerSize]

theorem peel?_header {payload stored : Bytes} (rest : Bytes) (h0 : 0 < payload.length)
    (hlen : payload.length < 4294967296) (hsame : stored.length = payload.length) :
    peel? (header payload ++ stored ++ rest) =
      some ((Crc32.checksum payload).toNat, stored, rest) := by
  have hc : (Crc32.checksum payload).toNat < Nat.pow 256 4 := by
    have := (Crc32.checksum payload).toNat_lt
    simpa using this
  refine peel?_eq_some_iff.2 ⟨header payload, header_length payload, rfl, ?_, by omega, ?_⟩
  · rw [header, List.take_left' (by simp [Le.u32]), Le.u32, Le.value_encode 4 _ hlen, hsame]
  · rw [header, List.drop_left' (by simp [Le.u32]), Le.u32, Le.value_encode 4 _ hc]

section Records

variable {T : Type} (enc : T → Bytes)

/-- A frame written for a record, whose payload now holds the bytes beside the record: the
encoding fits a frame, and the bytes have its length and are the encoding itself or fail
its checksum. -/
structure Stored (x : T × Bytes) : Prop where
  pos : 0 < (enc x.1).length
  fits : (enc x.1).length < 4294967296
  sameLength : x.2.length = (enc x.1).length
  intactOrBad : x.2 = enc x.1 ∨ Crc32.checksum x.2 ≠ Crc32.checksum (enc x.1)

/-- The frames written for records, each holding the bytes beside its record. -/
def written (xs : List (T × Bytes)) : Bytes :=
  xs.flatMap fun x => header (enc x.1) ++ x.2

/-- The records whose frames still hold their encodings. -/
def intact (xs : List (T × Bytes)) : List T :=
  (xs.filter fun x => x.2 = enc x.1).map (·.1)

@[simp] theorem written_nil : written enc [] = [] := rfl

theorem written_cons (x : T × Bytes) (xs : List (T × Bytes)) :
    written enc (x :: xs) = header (enc x.1) ++ x.2 ++ written enc xs := by
  simp [written]

theorem written_append (xs ys : List (T × Bytes)) :
    written enc (xs ++ ys) = written enc xs ++ written enc ys := by
  simp [written, List.flatMap_append]

/-- The scan reads the frames written for records one by one, keeping the intact ones. -/
theorem scanFrom_written {xs : List (T × Bytes)} (hxs : ∀ x ∈ xs, Stored enc x) (pos : Nat)
    (tail : Bytes) :
    scanFrom pos (written enc xs ++ tail) =
      (scanFrom (pos + (written enc xs).length) tail).map
        fun r => ((intact enc xs).map enc ++ r.1, r.2) := by
  induction xs generalizing pos with
  | nil =>
    simp only [written_nil, List.nil_append, List.length_nil, Nat.add_zero]
    cases scanFrom pos tail <;> rfl
  | cons x xs ih =>
    have hx := hxs x (List.mem_cons_self ..)
    have hpeel := peel?_header (written enc xs ++ tail) hx.pos hx.fits hx.sameLength
    rw [written_cons, List.append_assoc, List.append_assoc, ← List.append_assoc (header _),
      scanFrom_of_peel hpeel, ih (fun y hy => hxs y (List.mem_cons_of_mem x hy))]
    have hpos : pos + headerSize + x.2.length + (written enc xs).length =
        pos + (header (enc x.1) ++ x.2 ++ written enc xs).length := by
      simp only [List.length_append, header_length]
      omega
    rw [hpos]
    rcases hx.intactOrBad with hsame | hbad
    · have hkeep : intact enc (x :: xs) = x.1 :: intact enc xs := by simp [intact, hsame]
      rw [hkeep, if_pos (by simp [hsame])]
      cases scanFrom (pos + (header (enc x.1) ++ x.2 ++ written enc xs).length) tail <;>
        simp [Except.map, hsame]
    · have hne : x.2 ≠ enc x.1 := fun h => hbad (by rw [h])
      have hdrop : intact enc (x :: xs) = intact enc xs := by simp [intact, hne]
      have hcrc : ((Crc32.checksum (enc x.1)).toNat == (Crc32.checksum x.2).toNat) = false := by
        simp only [beq_eq_false_iff_ne, ne_eq]
        intro h
        exact hbad (UInt32.toNat_inj.1 h).symm
      rw [hdrop, hcrc]
      cases scanFrom (pos + (header (enc x.1) ++ x.2 ++ written enc xs).length) tail <;> rfl

/-- The frames written for records scan back to the intact ones, up to the end. -/
theorem scan_written {xs : List (T × Bytes)} (hxs : ∀ x ∈ xs, Stored enc x) :
    scan (written enc xs) = .ok ((intact enc xs).map enc, (written enc xs).length) := by
  have := scanFrom_written enc hxs 0 []
  rw [List.append_nil, scanFrom_nil, Nat.zero_add] at this
  show scanFrom 0 _ = _
  simpa [Except.map] using this

/-- The bytes of the frames after the whole ones, up to the cut, hold no whole frame at
their front: the cut ends inside the first of them. -/
theorem peel?_torn {xs : List (T × Bytes)} (hxs : ∀ x ∈ xs, Stored enc x) {k n : Nat}
    (htorn : n < xs.length → k < (written enc (xs.take (n + 1))).length) {b : UInt8} {rest : Bytes}
    (h : (written enc (xs.drop n)).take (k - (written enc (xs.take n)).length) = b :: rest) :
    peel? (b :: rest) = none := by
  by_cases hn : n < xs.length
  · have hx : Stored enc xs[n] := hxs _ (List.getElem_mem hn)
    have hpeel := peel?_header (written enc (xs.drop (n + 1))) hx.pos hx.fits hx.sameLength
    have hlt : k - (written enc (xs.take n)).length < headerSize + xs[n].2.length := by
      have := htorn hn
      rw [List.take_add_one, List.getElem?_eq_getElem hn, Option.toList_some, written_append,
        written_cons, written_nil] at this
      simp only [List.length_append, header_length, List.length_nil] at this
      have := hx.pos
      have := hx.sameLength
      omega
    rw [← h, List.drop_eq_getElem_cons hn, written_cons]
    exact peel?_take_of_lt hpeel hlt
  · rw [List.drop_eq_nil_of_le (by omega), written_nil, List.take_nil] at h
    cases h

/-- A cut at or past the whole frames keeps them, followed by the front of the rest. -/
theorem take_written (xs : List (T × Bytes)) {k n : Nat}
    (hwhole : (written enc (xs.take n)).length ≤ k) :
    (written enc xs).take k = written enc (xs.take n) ++
      (written enc (xs.drop n)).take (k - (written enc (xs.take n)).length) := by
  conv => lhs; rw [← List.take_append_drop n xs, written_append]
  rw [List.take_append, List.take_of_length_le hwhole]

/-- The scan of the frames of records cut after k bytes, of which the first n frames lie
wholly before the cut: the payloads of the intact whole frames and a stop at their end,
unless a valid frame starts after that end, where the scan reports it as corrupt. -/
theorem scan_cut {xs : List (T × Bytes)} (hxs : ∀ x ∈ xs, Stored enc x) {k n : Nat}
    (hwhole : (written enc (xs.take n)).length ≤ k)
    (htorn : n < xs.length → k < (written enc (xs.take (n + 1))).length) :
    scan ((written enc xs).take k) =
      if validSomewhere (((written enc xs).take k).drop ((written enc (xs.take n)).length + 1))
      then .error (written enc (xs.take n)).length
      else .ok ((intact enc (xs.take n)).map enc, (written enc (xs.take n)).length) := by
  have hsplit := take_written enc xs hwhole
  have hrest : ∀ {b : UInt8} {rest : Bytes},
      (written enc (xs.drop n)).take (k - (written enc (xs.take n)).length) = b :: rest →
        peel? (b :: rest) = none :=
    peel?_torn enc hxs htorn
  generalize (written enc (xs.drop n)).take (k - (written enc (xs.take n)).length) = torn
    at hsplit hrest
  have hwhole_ok : ∀ x ∈ xs.take n, Stored enc x := fun x hx => hxs x (List.mem_of_mem_take hx)
  have hdrop : (written enc (xs.take n) ++ torn).drop ((written enc (xs.take n)).length + 1) =
      torn.drop 1 := by
    rw [List.drop_append, List.drop_eq_nil_of_le (by omega), List.nil_append]
    congr 1
    omega
  rw [hsplit, hdrop, scan, scanFrom_written enc hwhole_ok, Nat.zero_add]
  cases torn with
  | nil => simp [scanFrom_nil, Except.map, validSomewhere]
  | cons b rest =>
    rw [scanFrom_of_peel_none (hrest rfl), List.drop_one, List.tail_cons]
    split <;> simp [Except.map]

end Records

end Frame

namespace Journal

variable {j : Journal} {d : Disk} {ino : Nat}

section Records

variable {T : Type} (enc : T → Bytes) (dec : Bytes → Option T)

theorem filterMap_decode (hdec : ∀ r, dec (enc r) = some r) (rs : List T) :
    (rs.map enc).filterMap dec = rs := by
  rw [List.filterMap_map, show dec ∘ enc = some from funext hdec, List.filterMap_some]

/-- On a file of whole frames, an append lands at their end and recovery then reads the
intact records and the new one, changing nothing. -/
theorem append_recover_whole {ys : List (T × Bytes)} (hys : ∀ y ∈ ys, Frame.Stored enc y)
    (hj : j.OnFile d ino) (hfile : d.blob ino = Frame.written enc ys)
    (hfree : d.limited = false) (r : T)
    (hr0 : 0 < (enc r).length) (hr : (enc r).length < 4294967296) :
    ∃ j' d', j.append (enc r) d = .ok (j', j.offset) d' ∧
      j'.recover d' = .ok (j', (Frame.intact enc ys ++ [r]).map enc) d' := by
  have hall : ∀ y ∈ ys ++ [(r, enc r)], Frame.Stored enc y := by
    intro y hy
    rcases List.mem_append.1 hy with hy | hy
    · exact hys y hy
    · rw [List.mem_singleton.1 hy]
      exact ⟨hr0, hr, rfl, .inl rfl⟩
  have hnew : d.blob ino ++ Frame.encode (enc r) = Frame.written enc (ys ++ [(r, enc r)]) := by
    rw [hfile, Frame.written_append, Frame.written_cons, Frame.written_nil, List.append_nil,
      Frame.encode_eq_header]
  have hintact : Frame.intact enc (ys ++ [(r, enc r)]) = Frame.intact enc ys ++ [r] := by
    simp [Frame.intact]
  refine ⟨_, _, append_file hj.handle hfree hr, ?_⟩
  have hj' := (hj.withOffset (j.offset + (Frame.encode (enc r)).length)).setBlob ino
    (d.blob ino ++ Frame.encode (enc r))
  rw [recover_of_scan_ok hj' (by rw [Disk.blob_setBlob_self, hnew]; exact Frame.scan_written enc hall),
    if_neg (by rw [Disk.blob_setBlob_self, hnew]; exact Nat.lt_irrefl _), hintact]

/-- Recovery of a journal opened on the frames of records cut after k bytes, of which the
first n frames lie wholly before the cut and some payloads fail their checksums. When a
valid frame starts after the whole frames, recovery refuses there and changes nothing.
Otherwise it reads the intact records of the whole frames and cuts the file at their end,
where the writer's count then stands; an append lands there, and a second recovery reads the
same records and the appended one. -/
theorem recover_cut (hdec : ∀ r, dec (enc r) = some r) {xs : List (T × Bytes)}
    (hxs : ∀ x ∈ xs, Frame.Stored enc x) {k n : Nat}
    (hwhole : (Frame.written enc (xs.take n)).length ≤ k)
    (htorn : n < xs.length → k < (Frame.written enc (xs.take (n + 1))).length)
    (hj : j.OnFile d ino) (hfile : d.blob ino = (Frame.written enc xs).take k)
    (hopen : j.offset = (d.blob ino).length) (hfree : d.limited = false) :
    ((∃ q, (Frame.written enc (xs.take n)).length < q ∧
        Frame.validAtFront ((d.blob ino).drop q) = true) →
      j.recover d = .error (.corrupt j.path (Frame.written enc (xs.take n)).length) d) ∧
    ((¬∃ q, (Frame.written enc (xs.take n)).length < q ∧
        Frame.validAtFront ((d.blob ino).drop q) = true) →
      ∃ j₁ d₁ ps, j.recover d = .ok (j₁, ps) d₁ ∧
        ps.filterMap dec = Frame.intact enc (xs.take n) ∧
        d₁.blob ino = Frame.written enc (xs.take n) ∧
        j₁.offset = (Frame.written enc (xs.take n)).length ∧
        ∀ r, 0 < (enc r).length → (enc r).length < 4294967296 →
          ∃ j₂ d₂, j₁.append (enc r) d₁ = .ok (j₂, (Frame.written enc (xs.take n)).length) d₂ ∧
            ∃ ps', j₂.recover d₂ = .ok (j₂, ps') d₂ ∧
              ps'.filterMap dec = Frame.intact enc (xs.take n) ++ [r]) := by
  have hscan := Frame.scan_cut enc hxs hwhole htorn
  rw [← hfile] at hscan
  have hiff := Frame.validSomewhere_drop_iff (d.blob ino) (Frame.written enc (xs.take n)).length
  refine ⟨fun hv => recover_of_scan_error hj (by rw [hscan, if_pos (hiff.2 hv)]), fun hnv => ?_⟩
  have hf : Frame.validSomewhere ((d.blob ino).drop ((Frame.written enc (xs.take n)).length + 1))
      = false := by
    cases h : Frame.validSomewhere _
    · rfl
    · exact absurd (hiff.1 h) hnv
  rw [hf, if_neg (by decide)] at hscan
  -- the whole frames are the front of the file
  have hfront : (d.blob ino).take (Frame.written enc (xs.take n)).length =
      Frame.written enc (xs.take n) := by
    rw [hfile, Frame.take_written enc xs hwhole, List.take_left]
  have hle : (Frame.written enc (xs.take n)).length ≤ (d.blob ino).length := by
    have := congrArg List.length hfront
    simp only [List.length_take] at this
    omega
  have hwhole_ok : ∀ x ∈ xs.take n, Frame.Stored enc x := fun x hx => hxs x (List.mem_of_mem_take hx)
  -- whether the file is cut or already ends there, the journal is left on the whole frames
  obtain ⟨j₁, d₁, hrec, hj₁, hfile₁, hoff₁, hfree₁⟩ : ∃ j₁ d₁,
      j.recover d = .ok (j₁, (Frame.intact enc (xs.take n)).map enc) d₁ ∧ j₁.OnFile d₁ ino ∧
      d₁.blob ino = Frame.written enc (xs.take n) ∧
      j₁.offset = (Frame.written enc (xs.take n)).length ∧ d₁.limited = false := by
    rw [recover_of_scan_ok hj hscan]
    by_cases hlt : (Frame.written enc (xs.take n)).length < (d.blob ino).length
    · rw [if_pos hlt]
      exact ⟨_, _, rfl, (hj.withOffset _).setBlob ino _, by rw [Disk.blob_setBlob_self, hfront],
        rfl, by rw [Disk.limited_setBlob, hfree]⟩
    · rw [if_neg hlt]
      exact ⟨_, _, rfl, hj, by rw [← hfront, List.take_of_length_le (by omega)], by omega, hfree⟩
  refine ⟨j₁, d₁, _, hrec, filterMap_decode enc dec hdec _, hfile₁, hoff₁, fun r hr0 hr => ?_⟩
  obtain ⟨j₂, d₂, happ, hrec₂⟩ :=
    append_recover_whole enc hwhole_ok hj₁ hfile₁ hfree₁ r hr0 hr
  rw [hoff₁] at happ
  exact ⟨j₂, d₂, happ, _, hrec₂, filterMap_decode enc dec hdec _⟩

/-- Three frames of byte strings stored as themselves, the second overwritten with bytes
that fail its checksum, cut three bytes into the third. -/
theorem recover_cut_spoiled_and_torn :
    let xs : List (Bytes × Bytes) := [([7], [7]), ([5], [6]), ([1, 2], [1, 2])]
    let d : Disk := { entries := [("w", .file 0)], blobs := [(0, (Frame.written id xs).take 21)] }
    let j : Journal := ⟨"w", .file 0, 21, .osDefault⟩
    (∀ x ∈ xs, Frame.Stored id x) ∧ (Frame.written id (xs.take 2)).length ≤ 21 ∧
    (2 < xs.length → 21 < (Frame.written id (xs.take 3)).length) ∧ j.OnFile d 0 ∧
    d.blob 0 = (Frame.written id xs).take 21 ∧ j.offset = (d.blob 0).length ∧ d.limited = false ∧
    (((∃ q, (Frame.written id (xs.take 2)).length < q ∧
        Frame.validAtFront ((d.blob 0).drop q) = true) →
      j.recover d = .error (.corrupt j.path (Frame.written id (xs.take 2)).length) d) ∧
    ((¬∃ q, (Frame.written id (xs.take 2)).length < q ∧
        Frame.validAtFront ((d.blob 0).drop q) = true) →
      ∃ j₁ d₁ ps, j.recover d = .ok (j₁, ps) d₁ ∧
        ps.filterMap some = Frame.intact id (xs.take 2) ∧
        d₁.blob 0 = Frame.written id (xs.take 2) ∧
        j₁.offset = (Frame.written id (xs.take 2)).length ∧
        ∀ r : Bytes, 0 < r.length → r.length < 4294967296 →
          ∃ j₂ d₂, j₁.append r d₁ = .ok (j₂, (Frame.written id (xs.take 2)).length) d₂ ∧
            ∃ ps', j₂.recover d₂ = .ok (j₂, ps') d₂ ∧
              ps'.filterMap some = Frame.intact id (xs.take 2) ++ [r])) := by
  intro xs d j
  have hxs : ∀ x ∈ xs, Frame.Stored id x := by
    intro x hx
    simp only [xs, List.mem_cons, List.mem_nil_iff, or_false] at hx
    rcases hx with rfl | rfl | rfl
    · exact ⟨by decide, by decide, rfl, .inl rfl⟩
    · exact ⟨by decide, by decide, rfl, .inr (by decide)⟩
    · exact ⟨by decide, by decide, rfl, .inl rfl⟩
  have hj : j.OnFile d 0 := ⟨by simp [d, j, Disk.lookup, Disk.normal_w], by decide, rfl⟩
  have hwhole : (Frame.written id (xs.take 2)).length ≤ 21 := by decide
  have htorn : 2 < xs.length → 21 < (Frame.written id (xs.take 3)).length := fun _ => by decide
  have hopen : j.offset = (d.blob 0).length := by decide
  exact ⟨hxs, hwhole, htorn, hj, rfl, hopen, rfl,
    recover_cut id some (fun _ => rfl) hxs hwhole htorn hj rfl hopen rfl⟩

/-- A record whose text holds the bytes of a valid frame, cut two bytes short of its frame's
end: no frame lies wholly before the cut, yet recovery refuses the file at its first byte
instead of cutting it to nothing. -/
theorem recover_cut_frame_inside_torn :
    let payload := Script.Numbered.encode ⟨1, "\x02\x00\x00\x00je;yalxyz"⟩
    let d : Disk := { entries := [("w", .file 0)], blobs := [(0, (Frame.encode payload).take 35)] }
    let j : Journal := ⟨"w", .file 0, 35, .osDefault⟩
    j.recover d = .error (.corrupt "w" 0) d := by
  intro payload d j
  have hj : j.OnFile d 0 := ⟨by simp [d, j, Disk.lookup, Disk.normal_w], by decide, rfl⟩
  refine recover_of_scan_error hj ?_
  rw [Frame.scan_of_peel_none (by decide +kernel), if_pos (by decide +kernel)]

end Records

end Journal

end ChangeLog
