import Mathlib
import ChangeLog.Ident.EventId
import ChangeLog.Proofs.Journal.Apart
/-
  Hexadecimal text reads back exactly its grammar. Writing gives two lower-case digits per
  byte, and reading gives the bytes back (`Hex.decode_encode`). A text is read exactly when it
  has an even number of characters, all hexadecimal digits of either case
  (`Hex.decode_ok_iff`); it then names half as many bytes as it has digits, and writing them
  gives the text back in lower case (`Hex.decode_eq_ok`).

  Reading works on the text's UTF-8 bytes, one byte per digit. Which bytes have a value is a
  fact of the ASCII table, checked over its 128 codes (`ascii_value?_isSome`,
  `ascii_value?_digit`); no byte of a character outside ASCII has one, since each such byte
  has its high bit set. So the bytes of a text all have values exactly when its characters are
  all digits, and then the text is its characters' codes, as many bytes as characters.

  An event id is read from its text by reading the hexadecimal and then checking the byte
  count: it is read exactly from 64 digits, a text that is not hexadecimal fails as such, and
  one of another even length fails with the number of bytes it names.

  Main statement: `event_id_hex_grammar`.
-/

namespace ChangeLog

namespace Hex

/-! ### The table of digits -/

/-- Among the ASCII codes, a byte has a value exactly when it is the code of a hexadecimal
digit of either case. -/
theorem ascii_value?_isSome : ∀ n : Fin 128,
    (value? (UInt8.ofNat n.val)).isSome = (Char.ofNat n.val).isHexDigit := by
  decide

/-- The value of an ASCII digit is below 16, and the digit written for it is the digit in lower
case. -/
theorem ascii_value?_digit : ∀ n : Fin 128, (value? (UInt8.ofNat n.val)).all
    (fun v => v.toNat < 16 && digit v.toNat == (Char.ofNat n.val).toLower) := by
  decide

/-- The sixteen digits written are ASCII lower-case hexadecimal digits, each read back as its
value. -/
theorem digit_table : ∀ n : Fin 16,
    value? (UInt8.ofNat (digit n.val).toNat) = some (UInt8.ofNat n.val) ∧
      (digit n.val).toNat < 128 ∧ (digit n.val).isHexDigit ∧ (digit n.val).toLower = digit n.val := by
  decide

/-- Only ASCII codes have values. -/
theorem lt_of_value?_isSome {b : UInt8} (h : (value? b).isSome) : b.toNat < 128 := by
  unfold value? at h
  split_ifs at h with h1 h2 h3
  all_goals simp_all [UInt8.le_iff_toNat_le]
  all_goals omega

/-- A byte with a value: the value is below 16 and is written back as the digit in lower
case. -/
theorem value?_eq_some {b v : UInt8} (h : value? b = some v) :
    v.toNat < 16 ∧ digit v.toNat = (Char.ofNat b.toNat).toLower := by
  have hb : b.toNat < 128 := lt_of_value?_isSome (by simp [h])
  have hall := ascii_value?_digit ⟨b.toNat, hb⟩
  simpa [h] using hall

/-- Two digit values make the byte whose high and low halves they are. -/
theorem toNat_pair {h l : UInt8} (hh : h.toNat < 16) (hl : l.toNat < 16) :
    (h <<< 4 ||| l).toNat = 16 * h.toNat + l.toNat := by
  rw [UInt8.toNat_or, UInt8.toNat_shiftLeft]
  simp only [UInt8.reduceToNat, Nat.reduceMod]
  rw [Nat.mod_eq_of_lt (by rw [Nat.shiftLeft_eq]; omega),
    ← Nat.shiftLeft_add_eq_or_of_lt (by simpa using hl), Nat.shiftLeft_eq]
  omega

/-! ### Characters and their bytes -/

theorem utf8EncodeChar_ascii {c : Char} (h : c.toNat < 128) :
    String.utf8EncodeChar c = [UInt8.ofNat c.toNat] := by
  simp [String.utf8EncodeChar, show c.toNat ≤ 127 by omega]

/-- Every byte of a character outside ASCII has its high bit set. -/
theorem utf8EncodeChar_high {c : Char} (h : 128 ≤ c.toNat) :
    ∀ b ∈ String.utf8EncodeChar c, 128 ≤ b.toNat := by
  simp only [String.utf8EncodeChar, show c.val.toNat = c.toNat from rfl]
  split_ifs with h1 h2 h3
  · omega
  all_goals
    simp only [List.forall_mem_cons, List.not_mem_nil, IsEmpty.forall_iff, implies_true, and_true,
      UInt8.toNat_ofNat']
    omega

theorem isHexDigit_lt {c : Char} (h : c.isHexDigit) : c.toNat < 128 := by
  simp only [Char.isHexDigit, Char.isDigit, Bool.or_eq_true, Bool.and_eq_true,
    decide_eq_true_eq, UInt32.le_iff_toNat_le, ge_iff_le, show '9'.val.toNat = 57 from rfl,
    show 'f'.val.toNat = 102 from rfl, show 'F'.val.toNat = 70 from rfl] at h
  show c.val.toNat < 128
  omega

/-- The bytes of a character all have values exactly when it is a hexadecimal digit. -/
theorem value?_utf8EncodeChar (c : Char) :
    (∀ b ∈ String.utf8EncodeChar c, (value? b).isSome) ↔ c.isHexDigit := by
  by_cases hc : c.toNat < 128
  · have htable := ascii_value?_isSome ⟨c.toNat, hc⟩
    simp only [Char.ofNat_toNat] at htable
    simp [utf8EncodeChar_ascii hc, htable]
  · -- outside ASCII neither side holds: the first byte has no value
    have hhigh := utf8EncodeChar_high (by omega : 128 ≤ c.toNat)
    obtain ⟨b, rest, hbs⟩ := List.exists_cons_of_ne_nil (String.utf8EncodeChar_ne_nil (c := c))
    have hb : b ∈ String.utf8EncodeChar c := by simp [hbs]
    constructor
    · intro hall
      exact absurd (lt_of_value?_isSome (hall b hb)) (by have := hhigh b hb; omega)
    · intro hd
      exact absurd (isHexDigit_lt hd) hc

/-- A text of ASCII characters is written as its characters' codes. -/
theorem toUTF8_ascii {s : String} (h : ∀ c ∈ s.toList, c.toNat < 128) :
    s.toUTF8.toList = s.toList.map fun c => UInt8.ofNat c.toNat := by
  rw [toUTF8_toList]
  generalize s.toList = cs at h ⊢
  induction cs with
  | nil => rfl
  | cons c cs ih =>
    rw [List.flatMap_cons, utf8EncodeChar_ascii (h c (by simp)),
      ih (fun d hd => h d (by simp [hd]))]
    rfl

/-- The bytes of a text all have values exactly when its characters are all hexadecimal
digits. -/
theorem value?_toUTF8 (s : String) :
    (∀ b ∈ s.toUTF8.toList, (value? b).isSome) ↔ ∀ c ∈ s.toList, c.isHexDigit := by
  rw [toUTF8_toList]
  constructor
  · intro h c hc
    exact (value?_utf8EncodeChar c).1 fun b hb => h b (List.mem_flatMap.2 ⟨c, hc, hb⟩)
  · intro h b hb
    obtain ⟨c, hc, hb⟩ := List.mem_flatMap.1 hb
    exact (value?_utf8EncodeChar c).2 (h c hc) b hb

/-- A text of hexadecimal digits is written as its characters' codes. -/
theorem toUTF8_of_digits {s : String} (h : ∀ c ∈ s.toList, c.isHexDigit) :
    s.toUTF8.toList = s.toList.map fun c => UInt8.ofNat c.toNat :=
  toUTF8_ascii fun c hc => isHexDigit_lt (h c hc)

/-- A text of hexadecimal digits has one byte per character. -/
theorem length_toUTF8_of_digits {s : String} (h : ∀ c ∈ s.toList, c.isHexDigit) :
    s.toUTF8.toList.length = s.length := by
  rw [toUTF8_of_digits h, List.length_map, String.length_toList]

/-! ### Writing -/

theorem toList_encode (bs : Bytes) :
    (encode bs).toList = bs.flatMap fun b => [digit (b.toNat / 16), digit (b.toNat % 16)] := by
  simp [encode, byteText, List.flatMap_map]

theorem length_encode (bs : Bytes) : (encode bs).length = 2 * bs.length := by
  rw [← String.length_toList, toList_encode]
  simp [List.length_flatMap]
  omega

/-- Writing gives lower-case hexadecimal digits. -/
theorem digit_of_mem_encode {bs : Bytes} {c : Char} (h : c ∈ (encode bs).toList) :
    c.isHexDigit ∧ c.toLower = c := by
  rw [toList_encode, List.mem_flatMap] at h
  obtain ⟨b, -, hc⟩ := h
  have hb := b.toNat_lt
  have hhi := digit_table ⟨b.toNat / 16, by omega⟩
  have hlo := digit_table ⟨b.toNat % 16, by omega⟩
  simp only [List.mem_cons, List.not_mem_nil, or_false] at hc
  rcases hc with rfl | rfl
  · exact ⟨hhi.2.2.1, hhi.2.2.2⟩
  · exact ⟨hlo.2.2.1, hlo.2.2.2⟩

/-- The pairs of digits written for bytes are read back as the bytes. -/
theorem decodePairs_digits (bs : Bytes) (i : Nat) :
    decodePairs (bs.flatMap fun b =>
      [UInt8.ofNat (digit (b.toNat / 16)).toNat, UInt8.ofNat (digit (b.toNat % 16)).toNat]) i =
      .ok bs := by
  induction bs generalizing i with
  | nil => rfl
  | cons b bs ih =>
    have hb := b.toNat_lt
    obtain ⟨hhi, -⟩ := digit_table ⟨b.toNat / 16, by omega⟩
    obtain ⟨hlo, -⟩ := digit_table ⟨b.toNat % 16, by omega⟩
    -- the two digits give back the byte's halves
    have hpair : UInt8.ofNat (b.toNat / 16) <<< 4 ||| UInt8.ofNat (b.toNat % 16) = b := by
      apply UInt8.toNat_inj.1
      rw [toNat_pair (by simp; omega) (by simp; omega)]
      simp
      omega
    simp only [List.flatMap_cons, List.cons_append, List.nil_append, decodePairs, hhi, hlo, ih,
      hpair]
    rfl

theorem decode_encode (bs : Bytes) : decode (encode bs) = .ok bs := by
  have hdigits : ∀ c ∈ (encode bs).toList, c.isHexDigit := fun c hc => (digit_of_mem_encode hc).1
  have hlen : (encode bs).toUTF8.toList.length = 2 * bs.length := by
    rw [length_toUTF8_of_digits hdigits, length_encode]
  simp only [decode, decodeBytes, hlen, Nat.mul_mod_right, zero_ne_one, if_false]
  rw [toUTF8_of_digits hdigits, toList_encode, List.map_flatMap]
  simp only [List.map_cons, List.map_nil]
  exact decodePairs_digits bs 0

/-! ### Reading -/

/-- Pairs of digits read to the end: every byte had a value, there are half as many bytes out,
and writing them gives the digits back in lower case. -/
theorem decodePairs_eq_ok {bs : Bytes} {i : Nat} {out : Bytes} (h : decodePairs bs i = .ok out)
    (he : bs.length % 2 = 0) :
    (∀ b ∈ bs, (value? b).isSome) ∧ out.length = bs.length / 2 ∧
      (encode out).toList = bs.map fun b => (Char.ofNat b.toNat).toLower := by
  fun_induction decodePairs bs i generalizing out with
  | case1 hi lo rest i vh vl hl hh ih =>
    rcases hr : decodePairs rest (i + 2) with e | tail <;>
      simp only [hr, bind, Except.bind, pure, Except.pure] at h
    · cases h
    · cases h
      obtain ⟨hall, hlen, htext⟩ := ih hr (by simp at he; omega)
      obtain ⟨vh16, dh⟩ := value?_eq_some hh
      obtain ⟨vl16, dl⟩ := value?_eq_some hl
      -- the pair is one byte whose halves are the two values
      have hq : (vh <<< 4 ||| vl).toNat / 16 = vh.toNat := by rw [toNat_pair vh16 vl16]; omega
      have hm : (vh <<< 4 ||| vl).toNat % 16 = vl.toNat := by rw [toNat_pair vh16 vl16]; omega
      refine ⟨?_, ?_, ?_⟩
      · simpa [hh, hl] using hall
      · simp only [List.length_cons, hlen]
        omega
      · rw [toList_encode] at htext ⊢
        rw [List.flatMap_cons, hq, hm, dh, dl, htext]
        rfl
  | case2 => cases h
  | case3 => cases h
  | case4 t i hnot =>
    -- fewer than two bytes are left, and an even count leaves none
    cases h
    rcases t with _ | ⟨b, _ | ⟨b', rest⟩⟩
    · exact ⟨by simp, rfl, rfl⟩
    · simp at he
    · exact absurd rfl (hnot b b' rest)

/-- Pairs of bytes that all have values are read to the end. -/
theorem decodePairs_of_isSome {bs : Bytes} (i : Nat) (he : bs.length % 2 = 0)
    (hall : ∀ b ∈ bs, (value? b).isSome) : ∃ out, decodePairs bs i = .ok out := by
  fun_induction decodePairs bs i with
  | case1 hi lo rest i vh vl hl hh ih =>
    obtain ⟨tail, ht⟩ := ih (by simp at he; omega) (fun b hb => hall b (by simp [hb]))
    exact ⟨(vh <<< 4 ||| vl) :: tail, by simp only [ht, bind, Except.bind, pure, Except.pure]⟩
  | case2 hi lo rest i hh => simpa [hh] using hall hi (by simp)
  | case3 hi lo rest i v hl hh => simpa [hl] using hall lo (by simp)
  | case4 => exact ⟨[], rfl⟩

/-- A text is read exactly when it has an even number of characters, all hexadecimal digits. -/
theorem decode_ok_iff (s : String) :
    (∃ bs, decode s = .ok bs) ↔ s.length % 2 = 0 ∧ ∀ c ∈ s.toList, c.isHexDigit := by
  constructor
  · rintro ⟨bs, h⟩
    simp only [decode, decodeBytes] at h
    split_ifs at h with hodd
    obtain ⟨hall, -, -⟩ := decodePairs_eq_ok h (by omega)
    have hdigits := (value?_toUTF8 s).1 hall
    rw [length_toUTF8_of_digits hdigits] at hodd
    exact ⟨by omega, hdigits⟩
  · rintro ⟨he, hdigits⟩
    have hlen := length_toUTF8_of_digits hdigits
    obtain ⟨bs, h⟩ := decodePairs_of_isSome 0 (by omega) ((value?_toUTF8 s).2 hdigits)
    exact ⟨bs, by simp only [decode, decodeBytes]; rw [if_neg (by omega)]; exact h⟩

/-- What is read from a text: half as many bytes as it has digits, written back as the text in
lower case. -/
theorem decode_eq_ok {s : String} {bs : Bytes} (h : decode s = .ok bs) :
    bs.length = s.length / 2 ∧ encode bs = s.toLower := by
  obtain ⟨-, hdigits⟩ := (decode_ok_iff s).1 ⟨bs, h⟩
  simp only [decode, decodeBytes] at h
  split_ifs at h with hodd
  obtain ⟨-, hlen, htext⟩ := decodePairs_eq_ok h (by omega)
  rw [length_toUTF8_of_digits hdigits] at hlen
  refine ⟨hlen, ?_⟩
  -- each byte read is a character's code, and the digit written for it is that character
  -- in lower case
  apply String.toList_inj.1
  rw [htext, toUTF8_of_digits hdigits, String.toLower, String.toList_map, List.map_map]
  apply List.map_congr_left
  intro c hc
  have hlt := isHexDigit_lt (hdigits c hc)
  simp [Nat.mod_eq_of_lt (by omega : c.toNat < 256)]

end Hex

namespace EventId

theorem ofBytes_eq_ok {bs : Bytes} {e : EventId} (h : ofBytes bs = .ok e) : e.bytes = bs := by
  unfold ofBytes at h
  split at h
  · cases h
    rfl
  · cases h

/-- An id is read back from its text. -/
theorem ofHex_toHex (e : EventId) : ofHex e.toHex = .ok e := by
  simp only [ofHex, toHex, Hex.decode_encode, ofBytes, e.size]
  rfl

/-- The text of an id is 64 lower-case hexadecimal digits. -/
theorem toHex_digits (e : EventId) :
    e.toHex.length = 64 ∧ ∀ c ∈ e.toHex.toList, c.isHexDigit ∧ c.toLower = c :=
  ⟨by rw [toHex, Hex.length_encode, e.size], fun _ hc => Hex.digit_of_mem_encode hc⟩

/-- A text is read as an id exactly when it is 64 hexadecimal digits of either case. -/
theorem ofHex_ok_iff (s : String) :
    (∃ e, ofHex s = .ok e) ↔ s.length = 64 ∧ ∀ c ∈ s.toList, c.isHexDigit := by
  constructor
  · rintro ⟨e, h⟩
    rcases hd : Hex.decode s with err | bs <;> rw [ofHex, hd] at h
    · cases h
    · have hbytes := ofBytes_eq_ok h
      obtain ⟨he, hdigits⟩ := (Hex.decode_ok_iff s).1 ⟨bs, hd⟩
      have hlen := (Hex.decode_eq_ok hd).1
      rw [← hbytes, e.size] at hlen
      exact ⟨by omega, hdigits⟩
  · rintro ⟨h64, hdigits⟩
    obtain ⟨bs, hd⟩ := (Hex.decode_ok_iff s).2 ⟨by omega, hdigits⟩
    have hlen : bs.length = 32 := by rw [(Hex.decode_eq_ok hd).1, h64]
    exact ⟨⟨bs, hlen⟩, by simp only [ofHex, hd, ofBytes, hlen]; rfl⟩

/-- The id read from a text is written back as the text in lower case. -/
theorem toHex_ofHex {s : String} {e : EventId} (h : ofHex s = .ok e) : e.toHex = s.toLower := by
  rcases hd : Hex.decode s with err | bs <;> rw [ofHex, hd] at h
  · cases h
  · rw [toHex, ofBytes_eq_ok h, (Hex.decode_eq_ok hd).2]

/-- A text of odd length or with a character that is not a digit is refused as not
hexadecimal. -/
theorem ofHex_invalidHex {s : String} (h : ¬ (s.length % 2 = 0 ∧ ∀ c ∈ s.toList, c.isHexDigit)) :
    ∃ err, ofHex s = .error (.invalidHex err) := by
  rcases hd : Hex.decode s with err | bs
  · exact ⟨err, by rw [ofHex, hd]⟩
  · exact absurd ((Hex.decode_ok_iff s).1 ⟨bs, hd⟩) h

/-- Hexadecimal digits of another even length are refused with the number of bytes they
name. -/
theorem ofHex_invalidLength {s : String} (he : s.length % 2 = 0)
    (hdigits : ∀ c ∈ s.toList, c.isHexDigit) (hne : s.length ≠ 64) :
    ofHex s = .error (.invalidLength 32 (s.length / 2)) := by
  obtain ⟨bs, hd⟩ := (Hex.decode_ok_iff s).2 ⟨he, hdigits⟩
  have hlen := (Hex.decode_eq_ok hd).1
  have h32 : s.length / 2 ≠ 32 := by omega
  simp only [ofHex, hd, ofBytes, hlen]
  rw [dif_neg h32]

end EventId

/-- Event ids and their hexadecimal text. Every id is read back from its text, which is 64
lower-case hexadecimal digits. A text is read as an id exactly when it is 64 hexadecimal
digits of either case, and the id's text is then the text in lower case. A text of odd length
or with a character that is not a hexadecimal digit is refused as not hexadecimal; digits of
another even length are refused as the wrong number of bytes, 32 expected and half the digits
given. -/
theorem event_id_hex_grammar :
    (∀ e : EventId, EventId.ofHex e.toHex = .ok e ∧ e.toHex.length = 64 ∧
      ∀ c ∈ e.toHex.toList, c.isHexDigit ∧ c.toLower = c) ∧
    (∀ s : String, (∃ e, EventId.ofHex s = .ok e) ↔
      s.length = 64 ∧ ∀ c ∈ s.toList, c.isHexDigit) ∧
    (∀ (s : String) (e : EventId), EventId.ofHex s = .ok e → e.toHex = s.toLower) ∧
    (∀ s : String, (s.length % 2 = 1 ∨ ∃ c ∈ s.toList, c.isHexDigit = false) →
      ∃ err, EventId.ofHex s = .error (.invalidHex err)) ∧
    (∀ s : String, s.length % 2 = 0 → (∀ c ∈ s.toList, c.isHexDigit) → s.length ≠ 64 →
      EventId.ofHex s = .error (.invalidLength 32 (s.length / 2))) := by
  refine ⟨fun e => ⟨EventId.ofHex_toHex e, EventId.toHex_digits e⟩, EventId.ofHex_ok_iff,
    fun _ _ h => EventId.toHex_ofHex h, fun s h => EventId.ofHex_invalidHex ?_,
    fun _ he hdigits hne => EventId.ofHex_invalidLength he hdigits hne⟩
  -- odd length and a character that is not a digit each break the grammar
  rintro ⟨he, hdigits⟩
  rcases h with hodd | ⟨c, hc, hnot⟩
  · omega
  · simp [hdigits c hc] at hnot

/-- Four digits name two bytes, not the 32 of an id, and three digits are not hexadecimal. -/
theorem event_id_short_hex_refused :
    ("abcd".length % 2 = 0 ∧ (∀ c ∈ "abcd".toList, c.isHexDigit) ∧ "abcd".length ≠ 64 ∧
      EventId.ofHex "abcd" = .error (.invalidLength 32 2)) ∧
    ("abc".length % 2 = 1 ∧ ∃ err, EventId.ofHex "abc" = .error (.invalidHex err)) := by
  have he : "abcd".length % 2 = 0 := by decide +kernel
  have hdigits : ∀ c ∈ "abcd".toList, c.isHexDigit := by
    simp only [String.reduceToList, List.mem_cons, List.not_mem_nil, or_false, forall_eq_or_imp,
      forall_eq]
    decide
  have hne : "abcd".length ≠ 64 := by decide +kernel
  have hodd : "abc".length % 2 = 1 := by decide +kernel
  exact ⟨⟨he, hdigits, hne, event_id_hex_grammar.2.2.2.2 "abcd" he hdigits hne⟩,
    hodd, event_id_hex_grammar.2.2.2.1 "abc" (.inl hodd)⟩

end ChangeLog
