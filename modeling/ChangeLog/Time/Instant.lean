import ChangeLog.Time.Civil
/-
  Instants in UTC, as seconds since 1970-01-01T00:00:00 and a count of nanoseconds. The
  nanoseconds are below one second, or below two seconds during a leap second, which can
  only be the last second of a minute. Dates run from -262143-01-01 to 262142-12-31.
-/

namespace ChangeLog

/-- The first second of the calendar range. -/
def Instant.minSecs : Int := -8334601228800

/-- The last second of the calendar range. -/
def Instant.maxSecs : Int := 8210266876799

/-- Whether seconds and nanoseconds name an instant. -/
def Instant.Valid (secs : Int) (nanos : Nat) : Prop :=
  Instant.minSecs ≤ secs ∧ secs ≤ Instant.maxSecs ∧ nanos < 2000000000 ∧
    (nanos < 1000000000 ∨ secs % 60 = 59)

instance (secs : Int) (nanos : Nat) : Decidable (Instant.Valid secs nanos) := by
  unfold Instant.Valid; exact inferInstance

/-- An instant of UTC time. -/
structure Instant where
  secs : Int
  nanos : Nat
  valid : Instant.Valid secs nanos

namespace Instant

instance : DecidableEq Instant := fun a b =>
  if h : a.secs = b.secs ∧ a.nanos = b.nanos then
    isTrue (by obtain ⟨s, n, v⟩ := a; obtain ⟨s', n', v'⟩ := b; cases h.1; cases h.2; rfl)
  else isFalse (fun e => h ⟨e ▸ rfl, e ▸ rfl⟩)

/-- The instant with these seconds and nanoseconds, if they name one. -/
def of? (secs : Int) (nanos : Nat) : Option Instant :=
  if h : Instant.Valid secs nanos then some ⟨secs, nanos, h⟩ else none

/-- The date of an instant. -/
def date (t : Instant) : Civil.Date := Civil.civilFromDays (t.secs / 86400)

/-- Seconds since midnight. -/
def secondOfDay (t : Instant) : Nat := (t.secs % 86400).toNat

/-- The epoch itself. -/
def epoch : Instant := ⟨0, 0, by decide⟩

theorem of?_secs {s : Int} {n : Nat} {t : Instant} (h : of? s n = some t) : t.secs = s ∧ t.nanos = n := by
  unfold of? at h
  split at h
  · cases h; exact ⟨rfl, rfl⟩
  · cases h

end Instant
end ChangeLog
