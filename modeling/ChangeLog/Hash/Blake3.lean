import ChangeLog.Bytes.Le
/-
  The BLAKE3 hash with its default 32-byte output. The input is cut into chunks of 1024
  bytes, each chunk into blocks of 64 bytes; a chunk is compressed block by block into a
  chaining value, and chaining values are joined pairwise up a binary tree whose left side
  holds the largest power of two of chunks that leaves the right side non-empty. The last
  compression, of a lone chunk's last block or of the top parent, carries the root flag, and
  its first eight words are the hash.
-/

namespace ChangeLog.Blake3

/-- The initial chaining value, shared with SHA-256. -/
def iv : Array UInt32 :=
  #[0x6A09E667, 0xBB67AE85, 0x3C6EF372, 0xA54FF53A, 0x510E527F, 0x9B05688C, 0x1F83D9AB,
    0x5BE0CD19]

/-- The order in which message words are taken in the next round. -/
def permutation : Array Nat := #[2, 6, 3, 10, 7, 0, 4, 13, 1, 11, 12, 5, 9, 14, 15, 8]

/-- Flags of a compression. -/
def chunkStart : UInt32 := 1
def chunkEnd : UInt32 := 2
def parent : UInt32 := 4
def root : UInt32 := 8

/-- Rotation to the right by n bits. -/
def rotr (x : UInt32) (n : UInt32) : UInt32 := (x >>> n) ||| (x <<< (32 - n))

/-- The quarter-round on the state words a, b, c, d with message words x and y. -/
def g (s : Array UInt32) (a b c d : Nat) (x y : UInt32) : Array UInt32 :=
  let va := s.getD a 0 + s.getD b 0 + x
  let vd := rotr (s.getD d 0 ^^^ va) 16
  let vc := s.getD c 0 + vd
  let vb := rotr (s.getD b 0 ^^^ vc) 12
  let va := va + vb + y
  let vd := rotr (vd ^^^ va) 8
  let vc := vc + vd
  let vb := rotr (vb ^^^ vc) 7
  ((s.setIfInBounds a va).setIfInBounds b vb |>.setIfInBounds c vc).setIfInBounds d vd

/-- One round: four columns, then four diagonals. -/
def round (s : Array UInt32) (m : Array UInt32) : Array UInt32 :=
  let w := fun i => m.getD i 0
  let s := g s 0 4 8 12 (w 0) (w 1)
  let s := g s 1 5 9 13 (w 2) (w 3)
  let s := g s 2 6 10 14 (w 4) (w 5)
  let s := g s 3 7 11 15 (w 6) (w 7)
  let s := g s 0 5 10 15 (w 8) (w 9)
  let s := g s 1 6 11 12 (w 10) (w 11)
  let s := g s 2 7 8 13 (w 12) (w 13)
  g s 3 4 9 14 (w 14) (w 15)

/-- The message words in the order of the next round. -/
def permute (m : Array UInt32) : Array UInt32 :=
  permutation.map fun i => m.getD i 0

/-- Seven rounds, the message permuted between them. -/
def rounds : Nat → Array UInt32 → Array UInt32 → Array UInt32
  | 0, s, _ => s
  | k + 1, s, m => rounds k (round s m) (permute m)

/-- The compression function: sixteen output words. -/
def compress (cv : Array UInt32) (block : Array UInt32) (counter : Nat) (len : Nat)
    (flags : UInt32) : Array UInt32 :=
  let state := cv ++ iv.extract 0 4 ++
    #[(counter % 4294967296).toUInt32, (counter / 4294967296 % 4294967296).toUInt32, len.toUInt32, flags]
  let s := rounds 7 state block
  (Array.range 8).map (fun i => s.getD i 0 ^^^ s.getD (i + 8) 0) ++
    (Array.range 8).map (fun i => s.getD (i + 8) 0 ^^^ cv.getD i 0)

/-- The sixteen little-endian words of a block, zero-padded to 64 bytes. -/
def blockWords (block : Bytes) : Array UInt32 :=
  let padded := block ++ List.replicate (64 - block.length) 0
  (Array.range 16).map fun i => (Le.value ((padded.drop (4 * i)).take 4)).toUInt32

/-- A compression whose result is not yet used: as a chaining value or as the root. -/
structure Output where
  cv : Array UInt32
  block : Array UInt32
  counter : Nat
  len : Nat
  flags : UInt32

/-- The chaining value of an output: the first eight words. -/
def Output.chainingValue (o : Output) : Array UInt32 :=
  (compress o.cv o.block o.counter o.len o.flags).extract 0 8

/-- The 32 bytes of an output compressed as the root. -/
def Output.rootBytes (o : Output) : Bytes :=
  let w := compress o.cv o.block o.counter o.len (o.flags ||| root)
  ((w.extract 0 8).toList.map fun x => Le.u32 x.toNat).flatten

/-- Cuts a byte string into pieces of n bytes, the last one shorter; nothing gives nothing. -/
def pieces (n : Nat) (bs : Bytes) : List Bytes :=
  if bs.length ≤ n ∨ n = 0 then (if bs.isEmpty then [] else [bs])
  else bs.take n :: pieces n (bs.drop n)
termination_by bs.length
decreasing_by simp_all; omega

/-- The output of one chunk, given its index. -/
def chunkOutput (chunk : Bytes) (index : Nat) : Output :=
  let blocks := match pieces 64 chunk with
    | [] => [[]]
    | bs => bs
  let rec go : List Bytes → Array UInt32 → UInt32 → Output
    | [], cv, f => ⟨cv, blockWords [], index, 0, f ||| chunkEnd⟩
    | [b], cv, f => ⟨cv, blockWords b, index, b.length, f ||| chunkEnd⟩
    | b :: rest, cv, f =>
      go rest ((compress cv (blockWords b) index 64 f).extract 0 8) 0
  go blocks iv chunkStart

/-- Doubles p while the double stays below n, at most fuel times. -/
def doubleBelow (n : Nat) : Nat → Nat → Nat
  | 0, p => p
  | fuel + 1, p => if 2 * p < n then doubleBelow n fuel (2 * p) else p

/-- The largest power of two below n, for n at least 2. -/
def leftCount (n : Nat) : Nat := doubleBelow n n 1

theorem doubleBelow_pos (n : Nat) : ∀ fuel p, 1 ≤ p → 1 ≤ doubleBelow n fuel p := by
  intro fuel
  induction fuel with
  | zero => intro p hp; exact hp
  | succ f ih =>
    intro p hp
    simp only [doubleBelow]
    split
    · exact ih _ (by omega)
    · exact hp

theorem doubleBelow_lt (n : Nat) : ∀ fuel p, p < n → doubleBelow n fuel p < n := by
  intro fuel
  induction fuel with
  | zero => intro p hp; exact hp
  | succ f ih =>
    intro p hp
    simp only [doubleBelow]
    split
    · exact ih _ (by omega)
    · exact hp

theorem leftCount_pos (n : Nat) : 1 ≤ leftCount n := doubleBelow_pos n n 1 (by omega)

theorem leftCount_lt {n : Nat} (h : 2 ≤ n) : leftCount n < n := doubleBelow_lt n n 1 (by omega)

/-- The output of the subtree over chunks with consecutive indices from the first. -/
def subtree (chunks : List Bytes) (first : Nat) : Output :=
  if _h : chunks.length ≤ 1 then chunkOutput (chunks.headD []) first
  else
    let k := leftCount chunks.length
    let l := (subtree (chunks.take k) first).chainingValue
    let r := (subtree (chunks.drop k) (first + k)).chainingValue
    ⟨iv, l ++ r, 0, 64, parent⟩
termination_by chunks.length
decreasing_by
  all_goals
    simp only [List.length_take, List.length_drop]
    have h1 := leftCount_pos chunks.length
    have h2 := leftCount_lt (n := chunks.length) (by omega)
    omega

/-- The BLAKE3 hash of a byte string. -/
def hash (input : Bytes) : Bytes :=
  (subtree (pieces 1024 input) 0).rootBytes

theorem compress_size (cv block : Array UInt32) (counter len : Nat) (flags : UInt32) :
    (compress cv block counter len flags).size = 16 := by
  simp [compress]

theorem rootBytes_length (o : Output) : o.rootBytes.length = 32 := by
  simp only [Output.rootBytes]
  generalize hw : compress o.cv o.block o.counter o.len (o.flags ||| root) = w
  have hs : w.size = 16 := hw ▸ compress_size _ _ _ _ _
  have h8 : (w.extract 0 8).toList.length = 8 := by simp [hs]
  generalize (w.extract 0 8).toList = ws at h8
  have : ∀ ws : List UInt32, (ws.map fun x => Le.u32 x.toNat).flatten.length = 4 * ws.length := by
    intro ws; induction ws with
    | nil => rfl
    | cons x r ih =>
      rw [List.map_cons, List.flatten_cons, List.length_append, ih]
      simp [Le.u32]
      omega
  rw [this, h8]

theorem hash_length (bs : Bytes) : (hash bs).length = 32 := rootBytes_length _
end ChangeLog.Blake3
