import ChangeLog.Checksum.Crc32
/-
  Frames of a journal. A frame is the payload's length as four little-endian bytes, the
  payload's CRC-32 as four little-endian bytes, then the payload. A frame is whole when its
  header is, its length is not zero and its payload fits in the bytes that follow; it is
  valid when it is whole and its checksum matches.

  Scanning reads whole frames from the front. A frame that is whole but not valid is
  passed over. At the first frame that is not whole the scan stops, and it is corrupt
  there if a valid frame starts at any later byte, since then the bad frame is not a torn
  tail but damage in the middle.

  Main statements: `peel_encode` reads a frame back from its bytes, and `scan_encode`
  says that a scan of written frames gives their payloads back and stops at the end.
-/

namespace ChangeLog.Frame

/-- The bytes of the header, before the payload. -/
def headerSize : Nat := 8

/-- The frame of a payload. -/
def encode (payload : Bytes) : Bytes :=
  Le.u32 payload.length ++ Le.u32 (Crc32.checksum payload).toNat ++ payload

/-- The checksum and payload of the whole frame at the front, and the bytes after it. -/
def peel? : Bytes → Option (Nat × Bytes × Bytes)
  | b0 :: b1 :: b2 :: b3 :: c0 :: c1 :: c2 :: c3 :: body =>
    if Le.value [b0, b1, b2, b3] = 0 then none
    else if Le.value [b0, b1, b2, b3] ≤ body.length then
      some (Le.value [c0, c1, c2, c3], body.take (Le.value [b0, b1, b2, b3]),
        body.drop (Le.value [b0, b1, b2, b3]))
    else none
  | _ => none

/-- A whole frame whose checksum matches starts at the front. -/
def validAtFront (bs : Bytes) : Bool :=
  match peel? bs with
  | some (crc, payload, _) => crc == (Crc32.checksum payload).toNat
  | none => false

/-- A valid frame starts at some byte. -/
def validSomewhere : Bytes → Bool
  | [] => false
  | b :: rest => validAtFront (b :: rest) || validSomewhere rest

theorem peel?_length {bs rest : Bytes} {crc : Nat} {payload : Bytes}
    (h : peel? bs = some (crc, payload, rest)) :
    bs.length = headerSize + payload.length + rest.length ∧ 0 < payload.length := by
  unfold peel? at h
  split at h
  · rename_i b0 b1 b2 b3 c0 c1 c2 c3 body
    split at h
    · simp at h
    · split at h
      · simp only [Option.some.injEq, Prod.mk.injEq] at h
        obtain ⟨-, rfl, rfl⟩ := h
        simp only [List.length_cons, List.length_take, List.length_drop, headerSize]
        omega
      · simp at h
  · simp at h

/-- The outcome of a scan: the payloads of the valid frames and the byte where the scan
stopped, or the position of a bad frame that valid frames follow. -/
def scanFrom (pos : Nat) (bs : Bytes) : Except Nat (List Bytes × Nat) :=
  match bs with
  | [] => .ok ([], pos)
  | b :: rest =>
    match h : peel? (b :: rest) with
    | none => if validSomewhere rest then .error pos else .ok ([], pos)
    | some (crc, payload, after) =>
      have : after.length < (b :: rest).length := by
        have := peel?_length h
        simp only [headerSize] at this
        omega
      let more := scanFrom (pos + headerSize + payload.length) after
      if crc == (Crc32.checksum payload).toNat then
        more.map fun r => (payload :: r.1, r.2)
      else more
termination_by bs.length
decreasing_by
  simp only [List.length_cons] at *
  omega

/-- Scans the frames of a file from its first byte. -/
def scan (bs : Bytes) : Except Nat (List Bytes × Nat) := scanFrom 0 bs

/-- The positions where frames start, read by their length fields alone, before a
position. -/
def countBefore (target : Nat) (pos : Nat) (bs : Bytes) (fuel : Nat) : Nat :=
  match fuel with
  | 0 => 0
  | fuel + 1 =>
    if target ≤ pos then 0
    else
      let len := Le.value ((bs.drop pos).take 4)
      countBefore target (pos + headerSize + len) bs fuel + 1

/-- How many frames precede a byte position, walking length fields from the first byte. -/
def indexOf (bs : Bytes) (target : Nat) : Nat := countBefore target 0 bs (target + 1)

/-- The start of frame k, walking length fields from the first byte, if its header is
whole. -/
def startOf (bs : Bytes) : Nat → Nat → Option Nat
  | 0, pos => if pos + headerSize ≤ bs.length then some pos else none
  | k + 1, pos =>
    if pos + headerSize ≤ bs.length then
      startOf bs k (pos + headerSize + Le.value ((bs.drop pos).take 4))
    else none

theorem encode_length (payload : Bytes) :
    (encode payload).length = headerSize + payload.length := by
  simp [encode, Le.u32, headerSize]
  omega

theorem peel_encode (payload rest : Bytes) (h0 : 0 < payload.length)
    (hlen : payload.length < 4294967296) :
    peel? (encode payload ++ rest) =
      some ((Crc32.checksum payload).toNat, payload, rest) := by
  have h4 : Nat.pow 256 4 = 4294967296 := rfl
  have hc : (Crc32.checksum payload).toNat < Nat.pow 256 4 := by
    have := (Crc32.checksum payload).toNat_lt
    rw [h4]
    simpa using this
  have hl : payload.length < Nat.pow 256 4 := by rw [h4]; exact hlen
  have el := Le.value_encode 4 payload.length hl
  have ec := Le.value_encode 4 (Crc32.checksum payload).toNat hc
  simp only [encode, Le.u32] at el ec ⊢
  generalize hx : Le.encode 4 payload.length = x at el
  generalize hy : Le.encode 4 (Crc32.checksum payload).toNat = y at ec
  have lx : x.length = 4 := by rw [← hx]; simp
  have ly : y.length = 4 := by rw [← hy]; simp
  match x, y, lx, ly with
  | [b0, b1, b2, b3], [c0, c1, c2, c3], _, _ =>
    simp only [List.cons_append, List.nil_append, peel?, el, ec]
    have : payload.length ≠ 0 := by omega
    simp [this]

theorem scanFrom_encode (pos : Nat) (payload rest : Bytes) (h0 : 0 < payload.length)
    (hlen : payload.length < 4294967296) :
    scanFrom pos (encode payload ++ rest) =
      (scanFrom (pos + headerSize + payload.length) rest).map
        fun r => (payload :: r.1, r.2) := by
  have hp := peel_encode payload rest h0 hlen
  have hne : encode payload ++ rest ≠ [] := by
    intro h
    have := congrArg List.length h
    simp [encode_length, headerSize] at this
  obtain ⟨b, t, hbt⟩ := List.exists_cons_of_ne_nil hne
  rw [hbt] at hp ⊢
  rw [scanFrom]
  split
  · rename_i h; rw [hp] at h; cases h
  · rename_i crc p after h
    rw [hp] at h
    simp only [Option.some.injEq, Prod.mk.injEq] at h
    obtain ⟨rfl, rfl, rfl⟩ := h
    simp

/-- The bytes that the frames of some payloads take. -/
def span : List Bytes → Nat
  | [] => 0
  | p :: ps => headerSize + p.length + span ps

theorem scan_encode (payloads : List Bytes)
    (h : ∀ p ∈ payloads, 0 < p.length ∧ p.length < 4294967296) :
    scan (payloads.flatMap encode) = .ok (payloads, span payloads) := by
  suffices ∀ pos, scanFrom pos (payloads.flatMap encode) = .ok (payloads, pos + span payloads) by
    simpa [scan] using this 0
  induction payloads with
  | nil => intro pos; simp [scanFrom, span]
  | cons p ps ih =>
    intro pos
    have hp := h p (List.mem_cons_self ..)
    have hs := ih fun q hq => h q (List.mem_cons_of_mem p hq)
    rw [List.flatMap_cons, scanFrom_encode pos p _ hp.1 hp.2, hs]
    simp only [Except.map, span]
    congr 2
    omega

end ChangeLog.Frame
