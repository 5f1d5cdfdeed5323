import Mathlib
import ChangeLog.Proofs.Journal.Records
/-
  What the events reader can take from bytes that are not an event.

  Every reader of a field passes on the bytes after it (`take_eq_some`, `readU64_eq_some`,
  `readBytes_eq_some`, `readText_eq_some`), so an event read from bytes has used a fixed part of
  80 bytes and the length its first text names, which is written at bytes 40 to 48
  (`ChangeEvent.reader_eq_some`). Its offset is the number of its first eight bytes, so it fits
  in 64 bits (`ChangeEvent.decode_offset_lt`).

  A rewind of progress is never read as an event (`ChangeEvent.decode_rewind`): it is at most
  21 bytes longer than the consumer's name, so for it to be long enough the name must cover
  bytes 40 to 48, and a name has no zero byte (`ConsumerId.bytes_ne_zero`, as it has no control
  character), so the length they denote is at least 2^56.
-/

namespace ChangeLog

/-- The bytes of a text are the UTF-8 bytes of its characters in turn. -/
theorem toUTF8_toList (s : String) : s.toUTF8.toList = s.toList.flatMap String.utf8EncodeChar := by
  rw [Binary.byteArray_toList, String.toUTF8_eq_toByteArray, ← String.utf8Encode_toList,
    List.utf8Encode, List.toList_data_toByteArray]

/-- Only the character zero has a zero byte in UTF-8: every byte of a longer encoding has its
high bit set. -/
theorem utf8EncodeChar_ne_zero {c : Char} (hc : c.toNat ≠ 0) :
    ∀ b ∈ String.utf8EncodeChar c, b ≠ 0 := by
  intro b hb h0
  subst h0
  simp only [String.utf8EncodeChar, show c.val.toNat = c.toNat from rfl] at hb
  split_ifs at hb <;> simp [UInt8.ext_iff] at hb <;> omega

/-- A consumer's name has no zero byte: the character zero is a control character. -/
theorem ConsumerId.bytes_ne_zero (c : ConsumerId) : ∀ b ∈ c.raw.toUTF8.toList, b ≠ 0 := by
  have h := c.valid
  unfold ConsumerId.problem? at h
  split_ifs at h with h1 h2 h3
  rw [toUTF8_toList]
  intro b hb
  obtain ⟨ch, hch, hb⟩ := List.mem_flatMap.1 hb
  refine utf8EncodeChar_ne_zero ?_ b hb
  intro h0
  apply h3
  rw [List.any_eq_true]
  exact ⟨ch, hch, by simp [Unicode.isControl, h0]⟩

/-- Bytes none of which is zero denote at least the weight of the last one. -/
theorem Le.pow_le_value {bs : Bytes} (h : ∀ b ∈ bs, b ≠ 0) (hne : bs ≠ []) :
    256 ^ (bs.length - 1) ≤ Le.value bs := by
  induction bs with
  | nil => exact absurd rfl hne
  | cons b rest ih =>
    have hb : 0 < b.toNat := by
      have := h b List.mem_cons_self
      rw [Ne, UInt8.ext_iff] at this
      simp only [UInt8.toNat_zero] at this
      omega
    simp only [Le.value, List.length_cons, Nat.add_sub_cancel]
    cases rest with
    | nil => simp; omega
    | cons b' rest' =>
      have := ih (fun x hx => h x (List.mem_cons_of_mem _ hx)) (List.cons_ne_nil _ _)
      simp only [List.length_cons, Nat.add_sub_cancel] at this ⊢
      rw [Nat.pow_succ]
      omega

namespace Binary

variable {α β : Type}

theorem bind_eq_some {r : Reader α} {f : α → Reader β} {bs rest : Bytes} {b : β}
    (h : (r >>= f) bs = some (b, rest)) :
    ∃ a mid, r bs = some (a, mid) ∧ f a mid = some (b, rest) := by
  simp only [bind, StateT.bind] at h
  rcases hr : r bs with _ | ⟨a, mid⟩ <;> rw [hr] at h
  · cases h
  · exact ⟨a, mid, rfl, h⟩

theorem take_eq_some {k : Nat} {bs v rest : Bytes} (h : take k bs = some (v, rest)) :
    k ≤ bs.length ∧ v = bs.take k ∧ rest = bs.drop k := by
  simp only [take] at h
  split_ifs at h with hk
  cases h
  exact ⟨hk, rfl, rfl⟩

theorem readU64_eq_some {bs rest : Bytes} {n : Nat} (h : readU64 bs = some (n, rest)) :
    8 ≤ bs.length ∧ n = Le.value (bs.take 8) ∧ rest = bs.drop 8 := by
  obtain ⟨v, mid, hv, h⟩ := bind_eq_some h
  obtain ⟨hk, rfl, rfl⟩ := take_eq_some hv
  cases h
  exact ⟨hk, rfl, rfl⟩

/-- A byte string read has used its length's eight bytes and as many bytes as they denote. -/
theorem readBytes_eq_some {bs v rest : Bytes} (h : readBytes bs = some (v, rest)) :
    8 + Le.value (bs.take 8) ≤ bs.length ∧
      rest.length + 8 + Le.value (bs.take 8) = bs.length := by
  obtain ⟨n, mid, hn, h⟩ := bind_eq_some h
  obtain ⟨h8, rfl, rfl⟩ := readU64_eq_some hn
  obtain ⟨hk, -, rfl⟩ := take_eq_some h
  simp only [List.length_drop] at hk ⊢
  omega

theorem readText_eq_some {bs rest : Bytes} {s : String} (h : readText bs = some (s, rest)) :
    8 + Le.value (bs.take 8) ≤ bs.length ∧
      rest.length + 8 + Le.value (bs.take 8) = bs.length := by
  obtain ⟨v, mid, hv, h⟩ := bind_eq_some h
  -- the text's bytes are taken before they are checked
  have hrest : rest = mid := by
    rcases hf : String.fromUTF8? (ByteArray.mk v.toArray) with _ | s' <;>
      simp [hf, failure, StateT.failure, pure, StateT.pure] at h
    exact h.2.symm
  subst hrest
  exact readBytes_eq_some hv

end Binary

namespace ChangeEvent

open Binary

/-- An event read from bytes has its offset in the first eight of them, and has used 80 bytes
besides the length its first text names at bytes 40 to 48. -/
theorem reader_eq_some {bs rest : Bytes} {ev : ChangeEvent} (h : reader bs = some (ev, rest)) :
    8 ≤ bs.length ∧ ev.offset = Le.value (bs.take 8) ∧
      80 + Le.value ((bs.drop 40).take 8) ≤ bs.length := by
  obtain ⟨off, r₁, h₁, h⟩ := bind_eq_some h
  obtain ⟨idb, r₂, h₂, h⟩ := bind_eq_some h
  -- an id that does not read fails the record; one that does passes the bytes on
  rcases hid : EventId.ofBytes idb with e | i <;> simp only [hid] at h <;>
    obtain ⟨id, r₃, h₃, h⟩ := bind_eq_some h
  · cases h₃
  cases h₃
  obtain ⟨et, r₄, h₄, h⟩ := bind_eq_some h
  obtain ⟨bf, r₅, h₅, h⟩ := bind_eq_some h
  obtain ⟨af, r₆, h₆, h⟩ := bind_eq_some h
  obtain ⟨src, r₇, h₇, h⟩ := bind_eq_some h
  obtain ⟨st, r₈, h₈, h⟩ := bind_eq_some h
  have hoff : ev.offset = off := by
    rcases hp : Rfc3339.parse st with _ | t <;> simp only [hp] at h <;> cases h
    rfl
  obtain ⟨hl₁, rfl, rfl⟩ := readU64_eq_some h₁
  obtain ⟨hl₂, -, rfl⟩ := take_eq_some h₂
  obtain ⟨-, hl₄⟩ := readText_eq_some h₄
  obtain ⟨-, hl₅⟩ := readBytes_eq_some h₅
  obtain ⟨-, hl₆⟩ := readBytes_eq_some h₆
  obtain ⟨-, hl₇⟩ := readText_eq_some h₇
  obtain ⟨hl₈, -⟩ := readText_eq_some h₈
  simp only [List.drop_drop, List.length_drop, Nat.reduceAdd] at hl₂ hl₄ ⊢
  refine ⟨hl₁, hoff, ?_⟩
  omega

/-- The offset of an event read back fits in 64 bits. -/
theorem decode_offset_lt {bs : Bytes} {ev : ChangeEvent} (h : decode bs = some ev) :
    ev.offset < 2 ^ 64 := by
  simp only [decode, Binary.decode, Option.map_eq_some_iff] at h
  obtain ⟨⟨ev', rest⟩, hr, rfl⟩ := h
  obtain ⟨h8, hoff, -⟩ := reader_eq_some hr
  have hlen : (bs.take 8).length = 8 := by simp only [List.length_take]; omega
  have := Le.value_lt (bs.take 8)
  rw [hlen] at this
  rw [hoff]
  exact this

/-- A rewind of progress is never read as an event. -/
theorem decode_rewind (c : ConsumerId) (o : Option Nat) :
    decode (ProgressRecord.rewind c o).encode = none := by
  rcases hr : reader (ProgressRecord.rewind c o).encode with _ | ⟨ev, rest⟩
  · simp [decode, Binary.decode, hr]
  exfalso
  obtain ⟨-, -, hlen⟩ := reader_eq_some hr
  have hsize := c.utf8ByteSize_le
  have hname := Binary.length_toUTF8_toList c.raw
  have hopt : (Binary.optU64 o).length ≤ 9 := by
    cases o <;> simp [Binary.optU64, Le.u64]
  have henc : (ProgressRecord.rewind c o).encode =
      (Le.u32 1 ++ Le.u64 c.raw.toUTF8.toList.length) ++
        (c.raw.toUTF8.toList ++ Binary.optU64 o) := by
    simp [ProgressRecord.encode, Binary.text, Binary.bytes]
  have htotal : (ProgressRecord.rewind c o).encode.length =
      12 + c.raw.toUTF8.toList.length + (Binary.optU64 o).length := by
    rw [henc]
    simp only [List.length_append, Le.u32, Le.u64, Le.encode_length]
    omega
  -- the record is long enough for an event only if bytes 40 to 48 lie within the name
  have hlong : 36 ≤ c.raw.toUTF8.toList.length := by omega
  have hdrop : ((ProgressRecord.rewind c o).encode.drop 40).take 8 =
      (c.raw.toUTF8.toList.drop 28).take 8 := by
    have h12 : (Le.u32 1 ++ Le.u64 c.raw.toUTF8.toList.length).length = 12 := by
      simp [Le.u32, Le.u64]
    rw [henc, List.drop_append, h12, List.drop_of_length_le (by omega),
      List.nil_append, List.drop_append_of_le_length (by omega),
      List.take_append_of_le_length (by simp only [List.length_drop]; omega)]
  have hbytes : ∀ b ∈ (c.raw.toUTF8.toList.drop 28).take 8, b ≠ 0 := fun b hb =>
    c.bytes_ne_zero b (List.mem_of_mem_drop (List.mem_of_mem_take hb))
  have hlen8 : ((c.raw.toUTF8.toList.drop 28).take 8).length = 8 := by
    simp only [List.length_take, List.length_drop]
    omega
  have hbig := Le.pow_le_value hbytes (List.ne_nil_of_length_pos (by omega))
  rw [hlen8] at hbig
  rw [hdrop] at hlen
  omega

end ChangeEvent

end ChangeLog
