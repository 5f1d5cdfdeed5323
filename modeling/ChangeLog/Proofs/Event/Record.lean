import Mathlib
import ChangeLog.Proofs.Journal.Apart
/-
  An event reads back from its record, whatever its payloads and its time. The record is the
  offset, the id's 32 bytes, the type, the images before and after, the source, and last the
  time as its RFC 3339 text with the letter Z; each variable field stands behind its byte count.

  `ChangeEvent.reader_encode_of` reads the fields back one by one when the numbers written in
  64-bit words fit them (`ChangeEvent.Fits`: the offset and the byte counts of the type, the
  images and the source, as every event of the store has them) and the time's text is short
  enough. That last condition always holds: the text of an instant has at most 42 characters
  (`Rfc3339.length_format_le`), since a year of the calendar range has at most six digits
  (`Instant.natAbs_year_lt`), so it takes at most 168 bytes. The text is read back as the same
  instant by `Rfc3339.parse_format`, a leap second and a year outside 0..9999 included.

  The reader takes exactly the record's bytes and leaves what follows, so decoding the record
  alone gives the event, and whether its id verifies is kept.

  Main statement: `event_record_round_trip`.
-/

namespace ChangeLog

/-- A character takes at most four bytes of UTF-8. -/
theorem utf8ByteSize_le_four_mul_length (s : String) : s.utf8ByteSize ≤ 4 * s.length := by
  rw [← Binary.length_toUTF8_toList, toUTF8_toList, ← String.length_toList]
  induction s.toList with
  | nil => simp
  | cons c cs ih =>
    rw [List.flatMap_cons, List.length_append, String.length_utf8EncodeChar, List.length_cons]
    have := c.utf8Size_le_four
    omega

/-- The years of the calendar range have at most six digits. -/
theorem Instant.natAbs_year_lt (t : Instant) : t.date.year.natAbs < 10 ^ 6 := by
  -- the year is 400 times the era plus at most 400, and the era is the day over 146097
  obtain ⟨era, yoe, doy, mp, hz, hy0, hy1, hdy0, hdy1, -, -, heq⟩ :=
    Civil.civilFromDays_eq (t.secs / 86400)
  obtain ⟨hmin, hmax, -, -⟩ := t.valid
  simp only [Instant.minSecs, Instant.maxSecs] at hmin hmax
  rw [Instant.date, heq]
  dsimp only
  split_ifs <;> omega

namespace Rfc3339

/-- A number of at most k digits padded to w takes at most w + k characters. -/
theorem length_pad_le {w n k : Nat} (hk : 0 < k) (h : n < 10 ^ k) : (pad w n).length ≤ w + k := by
  have := (Nat.length_toDigits_le_iff (b := 10) (n := n) (k := k) (by decide) hk).2 h
  rw [← String.length_toList, toList_pad]
  simp
  omega

theorem length_yearText_le {y : Int} (h : y.natAbs < 10 ^ 6) : (yearText y).length ≤ 11 := by
  have hpad := length_pad_le (w := 4) (by decide) h
  unfold yearText
  split_ifs with hy hneg
  · have := length_pad_le (w := 4) (n := y.toNat) (k := 6) (by decide) (by omega)
    omega
  · rw [String.length_append, show "-".length = 1 from rfl]
    omega
  · rw [String.length_append, show "+".length = 1 from rfl]
    omega

theorem length_fraction_le {n : Nat} (h : n < 10 ^ 9) : (fraction n).length ≤ 10 := by
  unfold fraction
  split_ifs
  · exact Nat.zero_le _
  all_goals
    rw [String.length_append, show ".".length = 1 from rfl, ← String.length_toList]
  · rw [length_pad (by decide) (by omega)]
    omega
  · rw [length_pad (by decide) (by omega)]
    omega
  · rw [length_pad (by decide) h]

/-- The text of an instant has at most 42 characters: a year of at most eleven, five fields of
two digits, a fraction of at most ten, the zone and the separators. -/
theorem length_format_le (zone : Zone) (t : Instant) : (format zone t).length ≤ 42 := by
  have hyear := length_yearText_le t.natAbs_year_lt
  have hmd := Civil.civilFromDays_month_day (t.secs / 86400)
  have hsod : t.secondOfDay < 86400 := by simp only [Instant.secondOfDay]; omega
  obtain ⟨-, -, hnanos, -⟩ := t.valid
  have two : ∀ n, n < 100 → (pad 2 n).length = 2 := fun n hn => by
    rw [← String.length_toList, length_pad (by decide) hn]
  -- during a leap second the fraction is what lies past the second's first 10^9 nanoseconds
  have hfrac := @length_fraction_le (if t.nanos ≥ 1000000000 then t.nanos - 1000000000 else t.nanos)
    (by split <;> omega)
  simp only [format, String.length_append, decide_eq_true_eq]
  rw [two _ (by simp only [Instant.date]; omega), two _ (by simp only [Instant.date]; omega),
    two _ (by omega), two _ (by omega), two _ (by split <;> omega)]
  cases zone <;> simp only [show "-".length = 1 from rfl, show ":".length = 1 from rfl,
    show "T".length = 1 from rfl, show "+00:00".length = 6 from rfl, show "Z".length = 1 from rfl] <;>
    omega

theorem utf8ByteSize_format_le (zone : Zone) (t : Instant) : (format zone t).utf8ByteSize ≤ 168 :=
  (utf8ByteSize_le_four_mul_length _).trans (by have := length_format_le zone t; omega)

end Rfc3339

namespace ChangeEvent

/-- An event whose numbers fit their words is read back from its record, leaving the bytes
after it. -/
theorem reader_encode {e : ChangeEvent} (h : e.Fits) (rest : Bytes) :
    reader (e.encode ++ rest) = some (e, rest) :=
  reader_encode_of h (by have := Rfc3339.utf8ByteSize_format_le .letter e.timestamp; omega) rest

end ChangeEvent

/-- The record of an event reads back as the event, for every offset that is a 64-bit word,
every id, type, source and pair of images whose byte counts a 64-bit length holds, and every
time of the calendar range, a leap second and a year outside 0..9999 included. The reader takes
exactly the record's bytes and leaves any that follow; so decoding the record gives the event,
and the id verifies after the round trip exactly when it did before. -/
theorem event_record_round_trip (e : ChangeEvent) (h : e.Fits) :
    (∀ rest : Bytes, ChangeEvent.reader (e.encode ++ rest) = some (e, rest)) ∧
      ChangeEvent.decode e.encode = some e ∧
      (ChangeEvent.decode e.encode).map ChangeEvent.verifyId = some e.verifyId := by
  have hread := ChangeEvent.reader_encode h
  have hdecode : ChangeEvent.decode e.encode = some e := by
    have hnil := hread []
    rw [List.append_nil] at hnil
    simp only [ChangeEvent.decode, Binary.decode, hnil, Option.map_some]
  refine ⟨hread, hdecode, ?_⟩
  rw [hdecode, Option.map_some]

/-- An event stamped half-way through the leap second that ends the year before year 0, with
an image after the change and none before, reads back from its record. -/
theorem leap_second_event_round_trip :
    let e : ChangeEvent := ⟨7, ⟨List.replicate 32 0xab, by simp⟩, "update", [], [1, 2], "db",
      ⟨-62167219201, 1500000000, by decide⟩⟩
    e.Fits ∧ (∀ rest : Bytes, ChangeEvent.reader (e.encode ++ rest) = some (e, rest)) ∧
      ChangeEvent.decode e.encode = some e ∧
      (ChangeEvent.decode e.encode).map ChangeEvent.verifyId = some e.verifyId := by
  intro e
  have hfits : e.Fits := by decide
  exact ⟨hfits, event_record_round_trip e hfits⟩

end ChangeLog
