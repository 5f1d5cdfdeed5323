import Mathlib
import ChangeLog.Time.Rfc3339
import ChangeLog.Proofs.Time.Calendar
/-
  Reading the RFC 3339 text of an instant gives the instant back, with either way of
  writing its zone (`parse_format`).

  Each field is written in decimal, padded with zeros, and read back by a reader that
  stops at the first character that is not a digit; `digitsBetween_pad` says so once for
  every width, through the decimal digits of the standard library (`Nat.ofDigitChars`).
  The year is written with a sign outside 0..9999 and read back with it
  (`readYear_yearText`), and the fraction of a second with 3, 6 or 9 digits, which the
  reader pads to nine (`readFraction_fraction`). `parse_eq_of_toList` then reads a whole
  text field by field; what it gives back is the instant by the calendar's round trip
  (`Civil.daysFromCivil_civilFromDays`) and the date's validity. A leap second is written
  as second 60 and read back as the nanoseconds past second 59.
-/

namespace ChangeLog.Rfc3339

/-- A padded number: zeros, then its decimal digits. -/
theorem toList_pad (w n : Nat) :
    (pad w n).toList = List.replicate (w - (Nat.toDigits 10 n).length) '0' ++ Nat.toDigits 10 n := by
  simp [pad, ← String.length_toList]

theorem isDigit_of_mem_pad {w n : Nat} {c : Char} (h : c ∈ (pad w n).toList) : c.isDigit = true := by
  rw [toList_pad, List.mem_append, List.mem_replicate] at h
  rcases h with ⟨-, rfl⟩ | h
  · rfl
  · exact Nat.isDigit_of_mem_toDigits (by decide) (by decide) h

theorem length_pad {w n : Nat} (hw : 0 < w) (h : n < 10 ^ w) : (pad w n).toList.length = w := by
  have := (Nat.length_toDigits_le_iff (b := 10) (n := n) (k := w) (by decide) hw).2 h
  rw [toList_pad]
  simp
  omega

theorem ofDigitChars_pad (w n : Nat) : Nat.ofDigitChars 10 (pad w n).toList 0 = n := by
  rw [toList_pad, Nat.ofDigitChars_append, Nat.ofDigitChars_replicate_zero, Nat.mul_zero,
    Nat.ofDigitChars_ten_toDigits]

/-- Digits stop at a character that is not one. -/
theorem takeWhile_digits {ds rest : List Char} (hd : ∀ c ∈ ds, c.isDigit = true)
    (hrest : ∀ c ∈ rest.head?, c.isDigit = false) : (ds ++ rest).takeWhile Char.isDigit = ds := by
  rw [List.takeWhile_append_of_pos hd]
  cases rest with
  | nil => simp
  | cons c rest => simp [List.takeWhile_cons_of_neg, hrest c rfl]

theorem digitsBetween_digits {lo hi : Nat} {ds rest : List Char} (hd : ∀ c ∈ ds, c.isDigit = true)
    (hrest : ∀ c ∈ rest.head?, c.isDigit = false) (hlo : lo ≤ ds.length) (hhi : ds.length ≤ hi) :
    digitsBetween lo hi (ds ++ rest) = some (Nat.ofDigitChars 10 ds 0, rest) := by
  simp only [digitsBetween, takeWhile_digits hd hrest, List.take_of_length_le hhi]
  rw [if_neg (by omega), List.drop_left]
  rfl

/-- A number padded to a width it fits in is read back whole. -/
theorem digitsBetween_pad {w n lo hi : Nat} {rest : List Char} (hw : 0 < w) (hn : n < 10 ^ w)
    (hlo : lo ≤ w) (hhi : w ≤ hi) (hrest : ∀ c ∈ rest.head?, c.isDigit = false) :
    digitsBetween lo hi ((pad w n).toList ++ rest) = some (n, rest) := by
  rw [digitsBetween_digits (fun _ => isDigit_of_mem_pad) hrest (by rw [length_pad hw hn]; exact hlo)
    (by rw [length_pad hw hn]; exact hhi), ofDigitChars_pad]

theorem isWhiteSpace_of_isDigit {c : Char} (h : c.isDigit = true) : Unicode.isWhiteSpace c = false := by
  simp only [Char.isDigit, Bool.and_eq_true, decide_eq_true_eq] at h
  have h1 : 48 ≤ c.toNat := h.1
  have h2 : c.toNat ≤ 57 := h.2
  simp only [Unicode.isWhiteSpace]
  simp
  omega

theorem skipBlanks_cons {c : Char} (cs : List Char) (h : Unicode.isWhiteSpace c = false) :
    skipBlanks (c :: cs) = c :: cs := by
  simp [skipBlanks, h]

theorem pad_ne_nil (w n : Nat) : (pad w n).toList ≠ [] := by
  simp [toList_pad, Nat.toDigits_ne_nil]

/-- A text that starts with digits: the first digit and the rest. -/
theorem pad_cons (w n : Nat) : ∃ c cs, (pad w n).toList = c :: cs ∧ c.isDigit = true := by
  obtain ⟨c, cs, h⟩ := List.exists_cons_of_ne_nil (pad_ne_nil w n)
  exact ⟨c, cs, h, isDigit_of_mem_pad (h ▸ List.mem_cons_self)⟩

/-- All the digits of a number written with any width are read back, however many. -/
theorem digitsBetween_pad_all {w n : Nat} {rest : List Char}
    (hrest : ∀ c ∈ rest.head?, c.isDigit = false) :
    digitsBetween 1 ((pad w n).toList ++ rest).length ((pad w n).toList ++ rest) = some (n, rest) := by
  have hlen : 1 ≤ (pad w n).toList.length := List.length_pos_iff.2 (pad_ne_nil w n)
  rw [digitsBetween_digits (fun _ => isDigit_of_mem_pad) hrest hlen (by simp), ofDigitChars_pad]

theorem readYear_yearText (y : Int) (rest : List Char) :
    readYear (skipBlanks ((yearText y).toList ++ '-' :: rest)) = some (y, '-' :: rest) := by
  unfold yearText
  split_ifs with h h'
  · obtain ⟨c, cs, hc, hd⟩ := pad_cons 4 y.toNat
    have hblank := isWhiteSpace_of_isDigit hd
    have hnot : c ≠ '-' ∧ c ≠ '+' := by
      constructor <;> rintro rfl <;> simp at hd
    have hread : digitsBetween 1 4 ((pad 4 y.toNat).toList ++ '-' :: rest) = some (y.toNat, '-' :: rest) :=
      digitsBetween_pad (by decide) (by omega) (by decide) le_rfl (by simp)
    rw [hc, List.cons_append] at hread ⊢
    rw [skipBlanks_cons _ hblank]
    unfold readYear
    split
    · rename_i heq
      exact absurd (List.cons.inj heq).1 hnot.1
    · rename_i heq
      exact absurd (List.cons.inj heq).1 hnot.2
    · rw [hread]
      simp
      omega
  · -- a year before year 0 is written with a minus sign
    rw [String.toList_append, List.append_assoc, show "-".toList = ['-'] from rfl,
      List.singleton_append, skipBlanks_cons _ (by decide)]
    simp only [readYear, @digitsBetween_pad_all 4 _ ('-' :: rest) (by simp), Option.map_some]
    simp [abs_of_neg h']
  · -- a year after 9999 is written with a plus sign
    rw [String.toList_append, List.append_assoc, show "+".toList = ['+'] from rfl,
      List.singleton_append, skipBlanks_cons _ (by decide)]
    simp only [readYear, @digitsBetween_pad_all 4 _ ('-' :: rest) (by simp), Option.map_some]
    simp [abs_of_pos (by omega : 0 < y)]

theorem literal_cons {c : Char} (rest : List Char) (h : Unicode.isWhiteSpace c = false) :
    literal c (c :: rest) = some rest := by
  simp [literal, skipBlanks_cons _ h]

/-- A fraction written with k digits is read as that many nanoseconds' worth of digits. -/
theorem readFraction_pad {k v : Nat} {rest : List Char} (hk : 0 < k) (hk9 : k ≤ 9)
    (hv : v < 10 ^ k) (hrest : ∀ c ∈ rest.head?, c.isDigit = false) :
    readFraction ('.' :: ((pad k v).toList ++ rest)) = some (10 ^ (9 - k) * v, rest) := by
  have hlen := length_pad hk hv
  have htake := takeWhile_digits (fun _ => isDigit_of_mem_pad (w := k) (n := v)) hrest
  simp only [readFraction, htake, List.isEmpty_iff, pad_ne_nil, if_false,
    List.take_of_length_le (by omega : (pad k v).toList.length ≤ 9), hlen]
  -- the digits are padded with zeros to nine, which multiplies what they are worth
  have hfold : List.foldl (fun n c => 10 * n + (c.toNat - 48)) 0
      ((pad k v).toList ++ List.replicate (9 - min 9 k) '0') = 10 ^ (9 - k) * v := by
    change Nat.ofDigitChars 10 _ 0 = _
    rw [Nat.ofDigitChars_append, ofDigitChars_pad, Nat.ofDigitChars_replicate_zero,
      min_eq_right hk9]
  rw [hfold, List.drop_left' hlen]

theorem readFraction_fraction {nanos : Nat} {rest : List Char} (hn : nanos < 1000000000)
    (hrest : ∀ c ∈ rest.head?, c.isDigit = false ∧ c ≠ '.') :
    readFraction ((fraction nanos).toList ++ rest) = some (nanos, rest) := by
  have hrest' : ∀ c ∈ rest.head?, c.isDigit = false := fun c hc => (hrest c hc).1
  unfold fraction
  split_ifs with h0 h6 h3
  · -- no fraction is written, and none is read before the zone
    subst h0
    rw [show "".toList = [] from rfl, List.nil_append]
    unfold readFraction
    split
    · exact absurd rfl (hrest '.' rfl).2
    · rfl
  · rw [String.toList_append, show ".".toList = ['.'] from rfl, List.singleton_append,
      List.cons_append, readFraction_pad (by decide) (by decide) (by omega) hrest']
    congr 2
    omega
  · rw [String.toList_append, show ".".toList = ['.'] from rfl, List.singleton_append,
      List.cons_append, readFraction_pad (by decide) (by decide) (by omega) hrest']
    congr 2
    omega
  · rw [String.toList_append, show ".".toList = ['.'] from rfl, List.singleton_append,
      List.cons_append, readFraction_pad (by decide) (by decide) hn hrest']
    simp

theorem skipBlanks_pad (w n : Nat) (rest : List Char) :
    skipBlanks ((pad w n).toList ++ rest) = (pad w n).toList ++ rest := by
  obtain ⟨c, cs, hc, hd⟩ := pad_cons w n
  rw [hc, List.cons_append, skipBlanks_cons _ (isWhiteSpace_of_isDigit hd)]

/-- Two digits of a field, then a separator. -/
theorem digitsBetween_two {n : Nat} {c : Char} (rest : List Char) (hn : n < 100)
    (hc : c.isDigit = false) :
    digitsBetween 1 2 ((pad 2 n).toList ++ c :: rest) = some (n, c :: rest) :=
  digitsBetween_pad (by decide) hn (by decide) le_rfl (by simpa using hc)

/-- A step that gives a value passes it on: the form in which a reader's do-block binds.
The reader is opened by `simp` with this rule; rewriting its binds to `Option.bind` first
makes `simp` run out of steps. -/
theorem some_bind {α β : Type} (a : α) (f : α → Option β) : (some a >>= f) = f a := rfl

/-- The text of a fraction starts with its dot, or is empty. -/
theorem head_fraction {n : Nat} {rest : List Char} (hrest : ∀ c ∈ rest.head?, c.isDigit = false) :
    ∀ c ∈ ((fraction n).toList ++ rest).head?, c.isDigit = false := by
  unfold fraction
  split_ifs
  · simpa using hrest
  all_goals simp

/-- A text made of the fields of an instant, its seconds and nanoseconds written with a
leap second as second 60, and a zone read as no offset, is read back as the instant. -/
theorem parse_eq_of_toList {s : String} {t : Instant} {sec nano : Nat} {zs : List Char}
    (hsec : sec ≤ 60) (hnano : nano < 1000000000)
    (hleap : (if sec = 60 then (59, nano + 1000000000) else (sec, nano)) =
      (t.secondOfDay % 60, t.nanos))
    (hzone : readZone (skipBlanks zs) = some (0, []))
    (hhead : ∀ c ∈ zs.head?, c.isDigit = false ∧ c ≠ '.')
    (hs : s.toList = (yearText t.date.year).toList ++ '-' :: ((pad 2 t.date.month).toList ++
      '-' :: ((pad 2 t.date.day).toList ++ 'T' :: ((pad 2 (t.secondOfDay / 3600)).toList ++
      ':' :: ((pad 2 (t.secondOfDay / 60 % 60)).toList ++ ':' :: ((pad 2 sec).toList ++
      ((fraction nano).toList ++ zs))))))) :
    parse s = some t := by
  have hmd := Civil.civilFromDays_month_day (t.secs / 86400)
  have hsod : t.secondOfDay < 86400 := by simp only [Instant.secondOfDay]; omega
  have hdigit : ∀ c ∈ zs.head?, c.isDigit = false := fun c hc => (hhead c hc).1
  simp only [parse, hs, readYear_yearText, some_bind,
    literal_cons _ (show Unicode.isWhiteSpace '-' = false by decide),
    literal_cons _ (show Unicode.isWhiteSpace ':' = false by decide),
    digitsBetween_two _ (show t.date.month < 100 by simp only [Instant.date]; omega)
      (show '-'.isDigit = false by decide),
    digitsBetween_two _ (show t.date.day < 100 by simp only [Instant.date]; omega)
      (show 'T'.isDigit = false by decide),
    digitsBetween_two _ (show t.secondOfDay / 3600 < 100 by omega)
      (show ':'.isDigit = false by decide),
    digitsBetween_two _ (show t.secondOfDay / 60 % 60 < 100 by omega)
      (show ':'.isDigit = false by decide),
    skipBlanks_pad, @digitsBetween_pad 2 sec 1 2 _ (by decide) (by omega) (by decide) le_rfl
      (head_fraction hdigit),
    readFraction_fraction hnano hhead, hzone]
  -- the fields give back the date, the time of day and the nanoseconds
  have hdate : ({ year := t.date.year, month := t.date.month, day := t.date.day } : Civil.Date) =
      t.date := rfl
  have hwall : Civil.daysFromCivil t.date * 86400 + ((t.secondOfDay / 3600 : Nat) : Int) * 3600 +
      ((t.secondOfDay / 60 % 60 : Nat) : Int) * 60 + ((t.secondOfDay % 60 : Nat) : Int) = t.secs := by
    simp only [Instant.date, Civil.daysFromCivil_civilFromDays, Instant.secondOfDay]
    omega
  have hvalid := t.valid
  simp only [Instant.Valid] at hvalid
  have hof : Instant.of? t.secs t.nanos = some t := by
    simp [Instant.of?, t.valid]
  rw [hleap, hdate, hwall]
  simp [Instant.date, inRange, hvalid, hof]
  exact ⟨rfl, ⟨⟨Civil.isValid_civilFromDays _, by omega⟩, by omega⟩, hsec⟩

/-- The zone written as the letter Z is no offset. -/
theorem readZone_letter : readZone (skipBlanks ['Z']) = some (0, []) := by
  simp [skipBlanks, readZone, Unicode.isWhiteSpace]

/-- The zone written as the offset +00:00 is no offset. -/
theorem readZone_offset : readZone (skipBlanks ['+', '0', '0', ':', '0', '0']) = some (0, []) := by
  simp [skipBlanks, readZone, readOffset, digitValue, Unicode.isWhiteSpace]

/-- Reading gives back the instant a text was written from, with either way of writing the
zone. -/
theorem parse_format (zone : Zone) (t : Instant) : parse (format zone t) = some t := by
  have hvalid := t.valid
  simp only [Instant.Valid] at hvalid
  have hsod : t.secondOfDay % 60 = (t.secs % 60).toNat := by
    simp only [Instant.secondOfDay]
    omega
  -- a leap second is written as second 60 with the nanoseconds past the second
  have hleap : ∀ sec nano, sec = t.secondOfDay % 60 + (if t.nanos ≥ 1000000000 then 1 else 0) →
      nano = (if t.nanos ≥ 1000000000 then t.nanos - 1000000000 else t.nanos) →
      sec ≤ 60 ∧ nano < 1000000000 ∧
        (if sec = 60 then (59, nano + 1000000000) else (sec, nano)) = (t.secondOfDay % 60, t.nanos) := by
    rintro sec nano rfl rfl
    by_cases hl : t.nanos ≥ 1000000000
    · simp only [hl, if_true]
      refine ⟨by omega, by omega, ?_⟩
      rw [if_pos (by omega)]
      simp only [Prod.mk.injEq]
      omega
    · simp only [hl, if_false]
      refine ⟨by omega, by omega, ?_⟩
      rw [if_neg (by omega), Nat.add_zero]
  obtain ⟨hsec, hnano, hpair⟩ := hleap _ _ rfl rfl
  cases zone
  · refine @parse_eq_of_toList _ t _ _ ['+', '0', '0', ':', '0', '0'] hsec hnano hpair
      readZone_offset (by simp) ?_
    simp [format]
  · refine @parse_eq_of_toList _ t _ _ ['Z'] hsec hnano hpair readZone_letter (by simp) ?_
    simp [format]

end ChangeLog.Rfc3339
