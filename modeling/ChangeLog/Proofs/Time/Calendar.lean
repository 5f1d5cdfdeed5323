import Mathlib
import ChangeLog.Time.Civil
/-
  The two conversions of the calendar undo each other: the day number of the date of a day
  is that day (`daysFromCivil_civilFromDays`), and the date of a day is a date that exists
  (`isValid_civilFromDays`).

  The conversion from days splits a day into an era of 400 years and a day of the era, the
  day of the era into a year of the era and a day of that year, years starting on 1 March,
  and the day of the year into a month and a day. `civilFromDays_eq` names these parts
  with the bounds they keep; both results are read off it. The only step that needs an
  argument is the bound on the day of the year (`dayOfYear_bounds`): the correction terms
  of the year's formula count the leap days passed, which is seen by cutting the era into
  centuries of 36524 days and those into blocks of four years of 1461 days.
-/

namespace ChangeLog.Civil

/-- The year of an era and the day of that year, for a day of the era: the year is below
400, the day of the year below 366, and the last day of a year is the leap day of the
year's February. -/
theorem dayOfYear_bounds {doe yoe : Int} (h0 : 0 ≤ doe) (h1 : doe ≤ 146096)
    (hyoe : (doe - doe / 1460 + doe / 36524 - doe / 146096) / 365 = yoe) :
    0 ≤ yoe ∧ yoe ≤ 399 ∧ 0 ≤ doe - (365 * yoe + yoe / 4 - yoe / 100) ∧
      doe - (365 * yoe + yoe / 4 - yoe / 100) ≤ 365 ∧
      (doe - (365 * yoe + yoe / 4 - yoe / 100) = 365 →
        yoe % 4 = 3 ∧ (yoe % 100 ≠ 99 ∨ yoe = 399)) := by
  rcases lt_or_eq_of_le h1 with h1 | rfl
  · -- a century f, a block k of four years in it, and a day s of the block
    obtain ⟨f, hf⟩ : ∃ f, f = doe / 36524 := ⟨_, rfl⟩
    obtain ⟨k, hk⟩ : ∃ k, k = doe % 36524 / 1461 := ⟨_, rfl⟩
    obtain ⟨s, hs⟩ : ∃ s, s = doe % 36524 % 1461 := ⟨_, rfl⟩
    have hf3 : 0 ≤ f ∧ f ≤ 3 := by omega
    have hk24 : 0 ≤ k ∧ 1461 * k + s ≤ 36523 := by omega
    have hs0 : 0 ≤ s ∧ s ≤ 1460 := by omega
    have hdoe : doe = 36524 * f + 1461 * k + s := by omega
    -- the count of days by 1460 runs one ahead late in a block
    obtain ⟨e, he⟩ : ∃ e, e = (24 * f + k + s) / 1460 := ⟨_, rfl⟩
    have he1 : (e = 0 ∧ 24 * f + k + s < 1460) ∨ (e = 1 ∧ 1460 ≤ 24 * f + k + s) := by omega
    -- the year j of the block
    obtain ⟨j, hj⟩ : ∃ j, j = (s - e) / 365 := ⟨_, rfl⟩
    have hj3 : 0 ≤ j ∧ j ≤ 3 ∧ 365 * j ≤ s - e ∧ s - e < 365 * j + 365 := by omega
    have hy : yoe = 100 * f + 4 * k + j := by omega
    -- the divisions have given all they give; omega runs faster without them
    clear hf hk hs he hj hyoe
    have h4 : yoe / 4 = 25 * f + k := by omega
    have h100 : yoe / 100 = f := by omega
    -- the day of the year is the day of the block past the block's whole years
    have hdoy : doe - (365 * yoe + yoe / 4 - yoe / 100) = s - 365 * j := by
      rw [h4, h100, hdoe, hy]
      ring
    rw [hdoy]
    refine ⟨by omega, by omega, by omega, by omega, fun hlast => ?_⟩
    -- a year has a 366th day only as the last year of a block, and the last block of a
    -- century is one day short
    have hblock : j = 3 ∧ s = 1460 := by omega
    have hk : k ≤ 23 := by omega
    rw [hy]
    omega
  · -- the last day of an era is the leap day of its year 399
    subst hyoe
    decide

/-- The date of a day, through the era, the year of the era, the day of the year from
1 March, and the month from March. -/
theorem civilFromDays_eq (z : Int) : ∃ era yoe doy mp : Int,
    z + 719468 = era * 146097 + (365 * yoe + yoe / 4 - yoe / 100) + doy ∧
    0 ≤ yoe ∧ yoe ≤ 399 ∧ 0 ≤ doy ∧ doy ≤ 365 ∧
    (doy = 365 → yoe % 4 = 3 ∧ (yoe % 100 ≠ 99 ∨ yoe = 399)) ∧
    (5 * doy + 2) / 153 = mp ∧
    civilFromDays z =
      ⟨if (if mp < 10 then mp + 3 else mp - 9) ≤ 2 then yoe + era * 400 + 1 else yoe + era * 400,
        (if mp < 10 then mp + 3 else mp - 9).toNat, (doy - (153 * mp + 2) / 5 + 1).toNat⟩ := by
  obtain ⟨era, hera⟩ : ∃ e, (z + 719468) / 146097 = e := ⟨_, rfl⟩
  obtain ⟨doe, hdoe⟩ : ∃ d, z + 719468 - era * 146097 = d := ⟨_, rfl⟩
  have hd0 : 0 ≤ doe := by omega
  have hd1 : doe ≤ 146096 := by omega
  obtain ⟨yoe, hyoe⟩ : ∃ y, (doe - doe / 1460 + doe / 36524 - doe / 146096) / 365 = y :=
    ⟨_, rfl⟩
  obtain ⟨hy0, hy1, hdy0, hdy1, hleap⟩ := dayOfYear_bounds hd0 hd1 hyoe
  refine ⟨era, yoe, doe - (365 * yoe + yoe / 4 - yoe / 100), _, by omega, hy0, hy1, hdy0,
    hdy1, hleap, rfl, ?_⟩
  simp only [civilFromDays, hera, hdoe, hyoe]

/-- The day number of the date of a day is that day. -/
theorem daysFromCivil_civilFromDays (z : Int) : daysFromCivil (civilFromDays z) = z := by
  obtain ⟨era, yoe, doy, mp, hz, hy0, hy1, hdy0, hdy1, -, hmp, heq⟩ := civilFromDays_eq z
  rw [heq]
  simp only [daysFromCivil]
  have hera : (yoe + era * 400) / 400 = era := by omega
  have hday : 0 ≤ doy - (153 * mp + 2) / 5 := by omega
  -- the month counted from March comes back from the month of the year
  by_cases hlt : mp < 10
  · have hm : ¬ (mp + 3).toNat ≤ 2 := by omega
    have hm' : ¬ mp + 3 ≤ 2 := by omega
    simp only [hlt, hm, hm', if_true, if_false, gt_iff_lt]
    have hmp' : (if 2 < (mp + 3).toNat then ((mp + 3).toNat : Int) - 3
        else (mp + 3).toNat + 9) = mp := by
      split_ifs <;> omega
    rw [hmp', hera, add_sub_cancel_right]
    omega
  · have hm : (mp - 9).toNat ≤ 2 := by omega
    have hm' : mp - 9 ≤ 2 := by omega
    simp only [hlt, hm, hm', if_true, if_false, add_sub_cancel_right]
    have hmp' : (if (mp - 9).toNat > 2 then ((mp - 9).toNat : Int) - 3
        else (mp - 9).toNat + 9) = mp := by
      split_ifs <;> omega
    rw [hmp', hera, add_sub_cancel_right]
    omega

-- day zero is the Unix epoch
example : civilFromDays 0 = ⟨1970, 1, 1⟩ := by decide

/-- The date of a day exists: its month is one of the twelve and its day one of the
month's. -/
theorem isValid_civilFromDays (z : Int) : (civilFromDays z).isValid = true := by
  obtain ⟨era, yoe, doy, mp, hz, hy0, hy1, hdy0, hdy1, hleap, hmp, heq⟩ := civilFromDays_eq z
  rw [heq]
  have hday : 0 ≤ doy - (153 * mp + 2) / 5 := by omega
  have hnext : doy < (153 * (mp + 1) + 2) / 5 := by omega
  have hmp0 : 0 ≤ mp := by omega
  have hmp1 : mp ≤ 11 := by omega
  simp only [Date.isValid, Bool.and_eq_true, decide_eq_true_eq]
  by_cases hlt : mp < 10
  · simp only [hlt, if_true]
    refine ⟨⟨⟨by omega, by omega⟩, by omega⟩, ?_⟩
    -- from March to December each month is bounded by the next one's start
    interval_cases mp <;> simp [monthDays] <;> omega
  · have hge : 10 ≤ mp := by omega
    have hm : mp - 9 ≤ 2 := by omega
    simp only [hlt, hm, if_false, if_true]
    refine ⟨⟨⟨by omega, by omega⟩, by omega⟩, ?_⟩
    interval_cases mp
    · simp [monthDays]
      omega
    · -- February has a 29th day only in a leap year, which is when the year of the era
      -- has its last day
      simp [monthDays, isLeap]
      split_ifs with hL
      · omega
      · by_contra hge
        obtain ⟨h4, h100⟩ := hleap (by omega)
        exact hL (by omega)

/-- A date's month and day fit in two digits. -/
theorem civilFromDays_month_day (z : Int) :
    1 ≤ (civilFromDays z).month ∧ (civilFromDays z).month ≤ 12 ∧
      1 ≤ (civilFromDays z).day ∧ (civilFromDays z).day ≤ 31 := by
  have h := isValid_civilFromDays z
  have hmd : ∀ y m, monthDays y m ≤ 31 := fun y m => by
    unfold monthDays
    split_ifs <;> omega
  simp only [Date.isValid, Bool.and_eq_true, decide_eq_true_eq] at h
  obtain ⟨⟨⟨h1, h2⟩, h3⟩, h4⟩ := h
  exact ⟨h1, h2, h3, h4.trans (hmd _ _)⟩

end ChangeLog.Civil
