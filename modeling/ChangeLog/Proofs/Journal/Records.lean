import Mathlib
import ChangeLog.Event.Basic
import ChangeLog.Progress.Record
import ChangeLog.Proofs.Time.Rfc3339
/-
  What the journals hold reads back: an event's bytes decode to the event
  (`ChangeEvent.decode_encode`) and a record of progress's bytes to the record
  (`ProgressRecord.decode_encode`), when the numbers they carry fit the widths they are
  written in.

  Each field has its reader lemma, stated on the field's bytes followed by any rest:
  fixed-width numbers (`readNat_encode`), byte strings and texts behind their lengths
  (`readBytes_bytes`, `readText_text`), an optional number (`readOptU64_optU64`), a
  consumer's name, which reads back because it was checked (`readConsumer_text`). A record
  is then read field by field with `bind_of_some`. The time of an event is its RFC 3339
  text, read back by `Rfc3339.parse_format`; an event's record is read back followed by any
  bytes when its numbers fit their words (`ChangeEvent.Fits`) and the time's text is short
  enough (`ChangeEvent.reader_encode_of`).
-/

namespace ChangeLog.Binary

/-- The loop that lists a byte array lists what is left of it. -/
theorem toList_loop (bs : ByteArray) (i : Nat) (r : List UInt8) :
    ByteArray.toList.loop bs i r = r.reverse ++ bs.data.toList.drop i := by
  fun_induction ByteArray.toList.loop bs i r with
  | case1 i r hi ih =>
    have hlen : i < bs.data.toList.length := by simpa using hi
    have hx : bs.data.toList.drop i = bs.get! i :: bs.data.toList.drop (i + 1) := by
      rw [List.drop_eq_getElem_cons hlen]
      congr 1
      simp [ByteArray.get!, hi]
    rw [ih, hx]
    simp
  | case2 i r hi =>
    have : bs.data.toList.length ≤ i := by simpa using hi
    simp [List.drop_of_length_le this]

theorem byteArray_toList (bs : ByteArray) : bs.toList = bs.data.toList := by
  rw [ByteArray.toList, toList_loop]
  rfl

/-- A text has as many bytes as its UTF-8 size. -/
theorem length_toUTF8_toList (s : String) : s.toUTF8.toList.length = s.utf8ByteSize := by
  rw [byteArray_toList]
  simp

variable {α β : Type}

/-- A reader that took a value passes the rest on. -/
theorem bind_of_some {r : Reader α} {f : α → Reader β} {bs rest : Bytes} {a : α}
    (h : r bs = some (a, rest)) : (r >>= f) bs = f a rest := by
  simp [bind, StateT.bind, h]

theorem pure_apply (a : α) (bs : Bytes) : (pure a : Reader α) bs = some (a, bs) := rfl

theorem readNat_encode (k n : Nat) (rest : Bytes) (h : n < Nat.pow 256 k) :
    readNat k (Le.encode k n ++ rest) = some (n, rest) := by
  have ht : take k (Le.encode k n ++ rest) = some (Le.encode k n, rest) := by
    simpa using take_append (Le.encode k n) rest
  simp only [readNat]
  rw [bind_of_some ht]
  simp [pure, StateT.pure, Le.value_encode k n h]

theorem readBytes_bytes (bs rest : Bytes) (h : bs.length < Nat.pow 256 8) :
    readBytes (bytes bs ++ rest) = some (bs, rest) := by
  simp only [readBytes, readU64, bytes, Le.u64, List.append_assoc]
  rw [bind_of_some (readNat_encode 8 bs.length (bs ++ rest) h), take_append]

/-- The bytes of a text are valid UTF-8 and read back as the text. -/
theorem fromUTF8?_toUTF8 (s : String) :
    String.fromUTF8? (ByteArray.mk s.toUTF8.toList.toArray) = some s := by
  rw [byteArray_toList]
  simp [String.fromUTF8?, String.fromUTF8, s.isValidUTF8]

theorem readText_text (s : String) (rest : Bytes) (h : s.utf8ByteSize < Nat.pow 256 8) :
    readText (text s ++ rest) = some (s, rest) := by
  have hlen : s.toUTF8.toList.length < Nat.pow 256 8 := by
    rw [length_toUTF8_toList]
    exact h
  simp only [readText, text]
  rw [bind_of_some (readBytes_bytes _ rest hlen), fromUTF8?_toUTF8]
  rfl

theorem readU64_u64 (n : Nat) (rest : Bytes) (h : n < 2 ^ 64) :
    readU64 (Le.u64 n ++ rest) = some (n, rest) :=
  readNat_encode 8 n rest h

theorem readU32_u32 (n : Nat) (rest : Bytes) (h : n < 2 ^ 32) :
    readU32 (Le.u32 n ++ rest) = some (n, rest) :=
  readNat_encode 4 n rest h

theorem take_of_length {n : Nat} {bs : Bytes} (rest : Bytes) (h : bs.length = n) :
    take n (bs ++ rest) = some (bs, rest) := by
  subst h
  exact take_append bs rest

@[simp] theorem length_bytes (bs : Bytes) : (bytes bs).length = 8 + bs.length := by
  simp [bytes, Le.u64]

@[simp] theorem length_text (s : String) : (text s).length = 8 + s.utf8ByteSize := by
  rw [text, length_bytes, length_toUTF8_toList]

end ChangeLog.Binary

namespace ChangeLog.ChangeEvent

open Binary

/-- The numbers an event's record writes in 64-bit words fit them: the offset, and the byte
counts of the type, the two images and the source. -/
def Fits (e : ChangeEvent) : Prop :=
  e.offset < 2 ^ 64 ∧ e.eventType.utf8ByteSize < 2 ^ 64 ∧ e.before.length < 2 ^ 64 ∧
    e.after.length < 2 ^ 64 ∧ e.source.utf8ByteSize < 2 ^ 64

instance (e : ChangeEvent) : Decidable e.Fits := inferInstanceAs (Decidable (_ ∧ _))

/-- The fields of an event's record are read back in the order they were written, leaving the
bytes after it, when they fit their widths and the time's text is shorter than a 64-bit
count. -/
theorem reader_encode_of {e : ChangeEvent} (h : e.Fits)
    (hstamp : (Rfc3339.format .letter e.timestamp).utf8ByteSize < 2 ^ 64) (rest : Bytes) :
    reader (e.encode ++ rest) = some (e, rest) := by
  obtain ⟨offset, id, eventType, before, after, source, timestamp⟩ := e
  obtain ⟨ho, hty, hb, ha, hsrc⟩ := h
  have hid : id.bytes.length = 32 := id.size
  have hpow : Nat.pow 256 8 = 2 ^ 64 := by norm_num
  have hof : EventId.ofBytes id.bytes = .ok id := by simp [EventId.ofBytes, hid]
  simp only [reader, encode, List.append_assoc]
  rw [bind_of_some (readU64_u64 offset _ ho), bind_of_some (take_of_length _ hid), hof]
  dsimp only
  rw [bind_of_some (pure_apply id _), bind_of_some (readText_text eventType _ (hpow ▸ hty)),
    bind_of_some (readBytes_bytes before _ (hpow ▸ hb)),
    bind_of_some (readBytes_bytes after _ (hpow ▸ ha)),
    bind_of_some (readText_text source _ (hpow ▸ hsrc)),
    bind_of_some (readText_text _ rest (hpow ▸ hstamp)), Rfc3339.parse_format]
  rfl

theorem decode_encode (e : ChangeEvent) (ho : e.offset < 2 ^ 64) (hlen : e.encode.length < 2 ^ 64) :
    decode e.encode = some e := by
  simp only [encode, List.length_append, length_text, length_bytes] at hlen
  -- each field is shorter than the whole record
  have h := reader_encode_of (e := e) ⟨ho, by omega, by omega, by omega, by omega⟩ (by omega) []
  rw [List.append_nil] at h
  simp only [decode, Binary.decode, h, Option.map_some]

end ChangeLog.ChangeEvent

namespace ChangeLog

theorem ConsumerId.parse_self (c : ConsumerId) : ConsumerId.parse c.raw = .ok c := by
  unfold ConsumerId.parse
  split
  · rfl
  · rename_i p hp
    rw [c.valid] at hp
    cases hp

/-- A consumer's name takes at most 256 bytes. -/
theorem ConsumerId.utf8ByteSize_le (c : ConsumerId) : c.raw.utf8ByteSize ≤ 256 := by
  have h := c.valid
  unfold ConsumerId.problem? at h
  split_ifs at h with h1 h2
  omega

namespace ProgressRecord

open Binary

theorem readConsumer_text (c : ConsumerId) (rest : Bytes) :
    readConsumer (text c.raw ++ rest) = some (c, rest) := by
  have h := c.utf8ByteSize_le
  simp only [readConsumer]
  rw [bind_of_some (readText_text c.raw rest (by norm_num; omega)), c.parse_self]
  rfl

theorem readOptU64_optU64 (o : Option Nat) (rest : Bytes) (h : ∀ n, o = some n → n < 2 ^ 64) :
    readOptU64 (optU64 o ++ rest) = some (o, rest) := by
  cases o with
  | none =>
    simp only [readOptU64, optU64]
    rw [show ([0] : Bytes) ++ rest = Le.encode 1 0 ++ rest from rfl,
      bind_of_some (readNat_encode 1 0 rest (by norm_num))]
    rfl
  | some n =>
    simp only [readOptU64, optU64]
    rw [show (1 :: Le.u64 n) ++ rest = Le.encode 1 1 ++ (Le.u64 n ++ rest) from rfl,
      bind_of_some (readNat_encode 1 1 (Le.u64 n ++ rest) (by norm_num))]
    simp only [one_ne_zero, if_false, if_true]
    rw [show (some <$> readU64) (Le.u64 n ++ rest) = (readU64 >>= fun a => pure (some a))
      (Le.u64 n ++ rest) from rfl, bind_of_some (readU64_u64 n rest (h n rfl))]
    rfl

/-- The offsets a record carries fit in 64 bits. -/
def Fits : ProgressRecord → Prop
  | .ack _ o => o < 2 ^ 64
  | .rewind _ o => ∀ n ∈ o, n < 2 ^ 64

/-- A record whose offsets fit in 64 bits reads back from its bytes. -/
theorem decode_encode (r : ProgressRecord) (h : r.Fits) : decode r.encode = some r := by
  cases r with
  | ack c o =>
    simp only [decode, Binary.decode, reader, encode, List.append_assoc]
    rw [bind_of_some (readU32_u32 0 _ (by norm_num))]
    simp only [if_true]
    rw [bind_of_some (readConsumer_text c _), ← List.append_nil (Le.u64 o),
      bind_of_some (readU64_u64 o [] ?_)]
    · rfl
    · exact h
  | rewind c o =>
    simp only [decode, Binary.decode, reader, encode, List.append_assoc]
    rw [bind_of_some (readU32_u32 1 _ (by norm_num))]
    simp only [one_ne_zero, if_false, if_true]
    rw [bind_of_some (readConsumer_text c _), ← List.append_nil (optU64 o),
      bind_of_some (readOptU64_optU64 o [] ?_)]
    · rfl
    · rintro n rfl
      exact h n rfl

/-- An acknowledgment's bytes fit a frame: a consumer's name is short. -/
theorem ack_encode_fits (c : ConsumerId) (o : Nat) :
    0 < (ProgressRecord.ack c o).encode.length ∧
      (ProgressRecord.ack c o).encode.length < 4294967296 := by
  have := ConsumerId.utf8ByteSize_le c
  simp only [encode, List.length_append, Le.u32, Le.u64, Le.encode_length, length_text]
  omega

end ProgressRecord
end ChangeLog
