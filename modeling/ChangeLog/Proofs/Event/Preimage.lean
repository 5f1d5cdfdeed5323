import Mathlib
import ChangeLog.Proofs.Journal.Records
/-
  The bytes hashed into an event's id determine its type, source, time and offset. After the
  tag come the type and the source, each behind its length, then the seconds, nanoseconds and
  offset at their fixed widths. A reader of that layout (`ChangeEvent.readPreimage`) takes each
  field back in turn, when the texts and the offset fit the 64-bit widths they are written in
  (`readPreimage_preimage`): the length in front of a text says where it ends, so the type
  cannot run into the source. Seconds in the calendar range fit a signed 64-bit word and the
  nanoseconds of an instant, a leap second's included, fit 32 bits. Two preimages are then
  equal exactly when the four fields are (`preimage_eq_iff`), since one reader gives both back.

  The payloads before and after the change are not hashed, so a stamped event verifies, and
  still does with other payloads.

  Main statement: `event_id_preimage_injective`.
-/

namespace ChangeLog

namespace Binary

/-- A signed 64-bit integer reads back from its two's complement bytes. -/
theorem readI64_i64 (i : Int) (rest : Bytes) (lo : -2 ^ 63 ≤ i) (hi : i < 2 ^ 63) :
    readI64 (Le.i64 i ++ rest) = some (i, rest) := by
  -- the word written: the integer itself, or its distance below 2^64 when it is negative
  have hword : (if i < 0 then (18446744073709551616 + i).toNat else i.toNat) < Nat.pow 256 8 := by
    have hpow : Nat.pow 256 8 = 18446744073709551616 := by norm_num
    rw [hpow]
    split <;> omega
  simp only [readI64, Le.i64]
  rw [bind_of_some (readNat_encode 8 _ rest hword)]
  generalize hk : (if i < 0 then (18446744073709551616 + i).toNat else i.toNat) = k
  -- a word below 2^63 is the integer itself, one above it lies 2^64 above a negative one
  have hval : (if k < 9223372036854775808 then (k : Int) else (k : Int) - 18446744073709551616) = i := by
    split <;> split at hk <;> omega
  rw [hval]
  rfl

end Binary

theorem Instant.eq_of_secs_nanos {t₁ t₂ : Instant} (hs : t₁.secs = t₂.secs) (hn : t₁.nanos = t₂.nanos) :
    t₁ = t₂ := by
  obtain ⟨s₁, n₁, v₁⟩ := t₁
  obtain ⟨s₂, n₂, v₂⟩ := t₂
  cases hs
  cases hn
  rfl

/-- The seconds of an instant fit a signed 64-bit word, and its nanoseconds 32 bits. -/
theorem Instant.fits_words (t : Instant) : -2 ^ 63 ≤ t.secs ∧ t.secs < 2 ^ 63 ∧ t.nanos < 2 ^ 32 := by
  obtain ⟨hmin, hmax, hnanos, _⟩ := t.valid
  simp only [Instant.minSecs, Instant.maxSecs] at hmin hmax
  omega

namespace ChangeEvent

open Binary

/-- The type and the source have fewer bytes than a 64-bit length can count, and the offset is
a 64-bit word: the widths the preimage writes them in. -/
def PreimageFits (eventType source : String) (offset : Nat) : Prop :=
  eventType.utf8ByteSize < 2 ^ 64 ∧ source.utf8ByteSize < 2 ^ 64 ∧ offset < 2 ^ 64

instance (eventType source : String) (offset : Nat) : Decidable (PreimageFits eventType source offset) :=
  inferInstanceAs (Decidable (_ ∧ _ ∧ _))

/-- Reads the fields back from the bytes hashed into an id: the tag, the type and the source
behind their lengths, then the seconds, the nanoseconds and the offset. -/
def readPreimage : Reader (String × String × Int × Nat × Nat) := do
  let t ← take tag.length
  if t = tag then
    let eventType ← readText
    let source ← readText
    let secs ← readI64
    let nanos ← readU32
    let offset ← readU64
    pure (eventType, source, secs, nanos, offset)
  else failure

theorem readPreimage_preimage (eventType source : String) (t : Instant) (offset : Nat) (rest : Bytes)
    (h : PreimageFits eventType source offset) :
    readPreimage (preimage eventType source t offset ++ rest) =
      some ((eventType, source, t.secs, t.nanos, offset), rest) := by
  obtain ⟨hty, hsrc, hoff⟩ := h
  obtain ⟨hlo, hhi, hnanos⟩ := t.fits_words
  have hpow : Nat.pow 256 8 = 2 ^ 64 := by norm_num
  simp only [readPreimage, preimage, List.append_assoc]
  rw [bind_of_some (take_append tag _), if_pos rfl]
  -- the fields are read in the order they were written, each leaving the rest to the next
  rw [bind_of_some (readText_text eventType _ (hpow ▸ hty)),
    bind_of_some (readText_text source _ (hpow ▸ hsrc)),
    bind_of_some (readI64_i64 t.secs _ hlo hhi), bind_of_some (readU32_u32 t.nanos _ hnanos),
    bind_of_some (readU64_u64 offset _ hoff)]
  rfl

/-- Two preimages of fields that fit their widths are equal exactly when the fields are. -/
theorem preimage_eq_iff {ty₁ src₁ ty₂ src₂ : String} {t₁ t₂ : Instant} {o₁ o₂ : Nat}
    (h₁ : PreimageFits ty₁ src₁ o₁) (h₂ : PreimageFits ty₂ src₂ o₂) :
    preimage ty₁ src₁ t₁ o₁ = preimage ty₂ src₂ t₂ o₂ ↔ ty₁ = ty₂ ∧ src₁ = src₂ ∧ t₁ = t₂ ∧ o₁ = o₂ := by
  constructor
  · intro h
    have r₁ := readPreimage_preimage ty₁ src₁ t₁ o₁ [] h₁
    have r₂ := readPreimage_preimage ty₂ src₂ t₂ o₂ [] h₂
    rw [h, r₂] at r₁
    -- one reader gives both field lists back from the same bytes
    simp only [Option.some.injEq, Prod.mk.injEq] at r₁
    obtain ⟨⟨hty, hsrc, hs, hn, ho⟩, -⟩ := r₁
    exact ⟨hty.symm, hsrc.symm, Instant.eq_of_secs_nanos hs.symm hn.symm, ho.symm⟩
  · rintro ⟨rfl, rfl, rfl, rfl⟩
    rfl

/-- An id reads only the type, source, time and offset: other payloads keep it verifying. -/
theorem verifyId_with_payloads (e : ChangeEvent) (before after : Bytes) :
    { e with before, after }.verifyId = e.verifyId := rfl

end ChangeEvent

/-- The bytes hashed into an event's id determine the event's type, source, time and offset, for
every time in the calendar range (leap seconds included) and every type, source and offset that
fit the 64-bit widths they are written in: two preimages are equal exactly when the four fields
are, so changing any of them changes the preimage. A stamped event's id verifies, and still
does when its payloads before and after the change are replaced. -/
theorem event_id_preimage_injective :
    (∀ (ty₁ src₁ : String) (t₁ : Instant) (o₁ : Nat) (ty₂ src₂ : String) (t₂ : Instant) (o₂ : Nat),
      ChangeEvent.PreimageFits ty₁ src₁ o₁ → ChangeEvent.PreimageFits ty₂ src₂ o₂ →
      (ChangeEvent.preimage ty₁ src₁ t₁ o₁ = ChangeEvent.preimage ty₂ src₂ t₂ o₂ ↔
        ty₁ = ty₂ ∧ src₁ = src₂ ∧ t₁ = t₂ ∧ o₁ = o₂)) ∧
    ∀ (e : NewEvent) (o : Nat) (t : Instant) (before after : Bytes),
      (e.stamp o t).verifyId = true ∧ { e.stamp o t with before, after }.verifyId = true := by
  refine ⟨fun ty₁ src₁ t₁ o₁ ty₂ src₂ t₂ o₂ h₁ h₂ => ChangeEvent.preimage_eq_iff h₁ h₂,
    fun e o t before after => ?_⟩
  rw [ChangeEvent.verifyId_with_payloads]
  exact ⟨NewEvent.verifyId_stamp e o t, NewEvent.verifyId_stamp e o t⟩

/-- The type "ab" with the source "c" and the type "a" with the source "bc" have the same bytes
in a row, and their lengths tell the preimages apart. -/
theorem preimage_separates_type_from_source :
    ChangeEvent.PreimageFits "ab" "c" 0 ∧ ChangeEvent.PreimageFits "a" "bc" 0 ∧
    (ChangeEvent.preimage "ab" "c" Instant.epoch 0 = ChangeEvent.preimage "a" "bc" Instant.epoch 0 ↔
      "ab" = "a" ∧ "c" = "bc" ∧ Instant.epoch = Instant.epoch ∧ 0 = 0) ∧
    ChangeEvent.preimage "ab" "c" Instant.epoch 0 ≠ ChangeEvent.preimage "a" "bc" Instant.epoch 0 := by
  have h₁ : ChangeEvent.PreimageFits "ab" "c" 0 := by decide
  have h₂ : ChangeEvent.PreimageFits "a" "bc" 0 := by decide
  have hiff := event_id_preimage_injective.1 "ab" "c" Instant.epoch 0 "a" "bc" Instant.epoch 0 h₁ h₂
  refine ⟨h₁, h₂, hiff, fun h => ?_⟩
  have hty : "ab" = "a" := (hiff.1 h).1
  exact absurd hty (by decide)

end ChangeLog
