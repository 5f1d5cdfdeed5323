/-
  Binary64 numbers as exact values. A finite number is a sign, an integer mantissa below 2^53
  and a power of two between -1074 and 971; the others are the two infinities and the value
  that is not a number. Rounding takes a positive ratio of naturals to the nearest finite
  number, a tie going to the even mantissa, and to an infinity when the ratio reaches the
  largest finite number plus half a unit. Products and quotients are the exact ones, rounded
  once, as the standard asks of them; so is the number nearest a decimal.
-/

namespace ChangeLog

/-- A binary64 number: finite as (-1)^negative · mantissa · 2^exponent, an infinity, or not a
number. -/
inductive Binary64 where
  | finite (negative : Bool) (mantissa : Nat) (exponent : Int)
  | infinite (negative : Bool)
  | nan
  deriving DecidableEq, Repr, Inhabited

namespace Binary64

/-- The exponent of the last place of the subnormal numbers. -/
def minExponent : Int := -1074

/-- The largest exponent of the last place of a finite number. -/
def maxExponent : Int := 971

/-- The mantissa of a normal number starts at 2^52. -/
def leastNormal : Nat := 4503599627370496

/-- Mantissas stay below 2^53. -/
def mantissaBound : Nat := 9007199254740992

/-- A natural times a power of two, as a numerator and a denominator. -/
def scaled (n : Nat) (e : Int) : Nat × Nat :=
  if 0 ≤ e then (n * Nat.pow 2 e.toNat, 1) else (n, Nat.pow 2 (-e).toNat)

/-- A natural times a power of ten, as a numerator and a denominator. -/
def scaledTen (n : Nat) (e : Int) : Nat × Nat :=
  if 0 ≤ e then (n * Nat.pow 10 e.toNat, 1) else (n, Nat.pow 10 (-e).toNat)

/-- The exponent k with 2^k ≤ num / den < 2^(k+1), for positive num and den. -/
def binaryExponent (num den : Nat) : Int :=
  let k : Int := (Nat.log2 num : Int) - Nat.log2 den
  let (n, d) := scaled den k
  -- num / den ≥ 2^k exactly when num · d ≥ n
  if num * d ≥ n then k else k - 1

/-- Rounds a quotient to the nearest natural, a tie going to the even one. -/
def roundHalfEven (num den : Nat) : Nat :=
  let q := num / den
  let r := num % den
  if 2 * r > den || (2 * r = den && q % 2 = 1) then q + 1 else q

/-- The number nearest num / den with the given sign, for a positive den. -/
def round (negative : Bool) (num den : Nat) : Binary64 :=
  if num = 0 then .finite negative 0 minExponent
  else
    let q := max (binaryExponent num den - 52) minExponent
    let (n, d) := scaled den q
    -- num / den = (num · d / n) · 2^q
    let m := roundHalfEven (num * d) n
    let (m, q) := if m = mantissaBound then (leastNormal, q + 1) else (m, q)
    if q > maxExponent then .infinite negative else .finite negative m q

/-- The number nearest a natural. -/
def ofNat (n : Nat) : Binary64 := round false n 1

/-- The number nearest (-1)^negative · digits · 10^exponent. Exponents far outside the range
of finite numbers give an infinity or a zero without computing the power. -/
def ofDecimal (negative : Bool) (digits : Nat) (exponent : Int) : Binary64 :=
  if digits = 0 then .finite negative 0 minExponent
  else if exponent > 309 then .infinite negative
  else if ((toString digits).length : Int) + exponent < -324 then .finite negative 0 minExponent
  else
    let (n, d) := scaledTen digits exponent
    round negative n d

/-- The power of ten nearest 10^k. -/
def pow10 (k : Nat) : Binary64 := ofNat (Nat.pow 10 k)

/-- The number with the other sign. -/
def neg : Binary64 → Binary64
  | .finite s m e => .finite (!s) m e
  | .infinite s => .infinite (!s)
  | .nan => .nan

/-- Whether a number is an infinity. -/
def isInfinite : Binary64 → Bool
  | .infinite _ => true
  | _ => false

/-- Whether a number is a zero of either sign. -/
def isZero : Binary64 → Bool
  | .finite _ m _ => m = 0
  | _ => false

/-- The rounded product. -/
def mul : Binary64 → Binary64 → Binary64
  | .nan, _ | _, .nan => .nan
  | .finite s m e, .finite t n f =>
    let (num, den) := scaled (m * n) (e + f)
    round (s != t) num den
  | .infinite s, .infinite t => .infinite (s != t)
  | .infinite s, .finite t n _ | .finite t n _, .infinite s =>
    if n = 0 then .nan else .infinite (s != t)

/-- The rounded quotient. -/
def div : Binary64 → Binary64 → Binary64
  | .nan, _ | _, .nan => .nan
  | .finite s m e, .finite t n f =>
    if n = 0 then (if m = 0 then .nan else .infinite (s != t))
    else
      let (num, den) := scaled m (e - f)
      round (s != t) num (den * n)
  | .infinite _, .infinite _ => .nan
  | .infinite s, .finite t _ _ => .infinite (s != t)
  | .finite s _ _, .infinite t => .finite (s != t) 0 minExponent

/-- Rounding a quotient moves it by at most one. -/
theorem roundHalfEven_le (num den : Nat) : roundHalfEven num den ≤ num / den + 1 := by
  unfold roundHalfEven
  dsimp only
  split <;> omega

/-- Changing the sign twice changes nothing. -/
theorem neg_neg (x : Binary64) : x.neg.neg = x := by
  cases x <;> simp [neg]

end Binary64
end ChangeLog
