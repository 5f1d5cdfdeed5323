import ChangeLog.Binary64.Basic
/-
  The shortest decimal of a binary64 number: the fewest significant digits whose value rounds
  back to the number, and of two such decimals the nearer, a tie going to the larger. The
  values that round to a finite nonzero number form an interval that reaches half a unit
  towards each neighbour, ends included when the mantissa is even; at 2^52 the neighbour
  below is half as far. On the grid of decimals with n significant digits the interval holds
  a point exactly when it holds one of the two points next to the number, so the digits are
  found by trying n = 1, 2, … up to 17, which always succeeds.

  Two written forms follow. The plain form never uses an exponent: digits, a point where the
  exponent puts it, and zeros to fill; the pointed form adds ".0" when no point is written.
  The form of JSON texts is positional while the point falls within the first sixteen digits
  or at most five places before them, and a mantissa with a signed exponent after "e"
  otherwise.
-/

namespace ChangeLog.Binary64

/-- A decimal: digits · 10^exponent. -/
structure Decimal where
  digits : Nat
  exponent : Int
  deriving DecidableEq, Repr

/-- Compares a · 10^s with b · 2^p exactly. -/
def compareScaled (a : Nat) (s : Int) (b : Nat) (p : Int) : Ordering :=
  compare (a * Nat.pow 10 s.toNat * Nat.pow 2 (-p).toNat)
    (b * Nat.pow 2 p.toNat * Nat.pow 10 (-s).toNat)

/-- Whether d · 10^t lies in the interval of values that round to m · 2^q, for m > 0. The
interval is measured in quarters of the last place. -/
def roundsTo (m : Nat) (q : Int) (d : Nat) (t : Int) : Bool :=
  let low := if m = leastNormal && q > minExponent then 4 * m - 1 else 4 * m - 2
  let high := 4 * m + 2
  let inclusive := m % 2 = 0
  let aboveLow := match compareScaled d t low (q - 2) with
    | .gt => true
    | .eq => inclusive
    | .lt => false
  let belowHigh := match compareScaled d t high (q - 2) with
    | .lt => true
    | .eq => inclusive
    | .gt => false
  aboveLow && belowHigh

/-- The exponent E with 10^E ≤ m · 2^q < 10^(E+1), for m > 0. -/
def decimalExponent (m : Nat) (q : Int) : Int :=
  let (num, den) := scaled m q
  let k : Int := ((toString num).length : Int) - (toString den).length
  let (n, d) := scaledTen den k
  -- num / den ≥ 10^k exactly when num · d ≥ n
  if num * d ≥ n then k else k - 1

/-- The digits of the grid point at or below m · 2^q on the grid of 10^t. -/
def gridBelow (m : Nat) (q t : Int) : Nat :=
  let (a, b) := scaled m q
  let (c, d) := scaledTen b t
  a * d / c

/-- Drops the zeros at the end of the digits, raising the exponent for each. -/
def Decimal.trim : Nat → Decimal → Decimal
  | 0, x => x
  | fuel + 1, x =>
    if x.digits ≠ 0 && x.digits % 10 = 0 then trim fuel ⟨x.digits / 10, x.exponent + 1⟩ else x

/-- Tries the grids of n significant digits and more, at most fuel of them. -/
def search (m : Nat) (q e : Int) : Nat → Nat → Decimal
  | 0, n => ⟨gridBelow m q (e - n + 1), e - n + 1⟩
  | fuel + 1, n =>
    let t := e - n + 1
    let lo := gridBelow m q t
    let hi := lo + 1
    match roundsTo m q lo t, roundsTo m q hi t with
    | true, true =>
      -- both read back: the nearer, judged against the midpoint between them
      match compareScaled (2 * lo + 1) t (2 * m) q with
      | .gt => ⟨lo, t⟩
      | _ => ⟨hi, t⟩
    | true, false => ⟨lo, t⟩
    | false, true => ⟨hi, t⟩
    | false, false => search m q e fuel (n + 1)

/-- The shortest decimal of m · 2^q, for m > 0, without zeros at the end of its digits. -/
def shortest (m : Nat) (q : Int) : Decimal :=
  (search m q (decimalExponent m q) 17 1).trim 20

/-- Zeros as text. -/
def zeros (n : Nat) : String := String.ofList (List.replicate n '0')

/-- A decimal written without an exponent. -/
def Decimal.positional (x : Decimal) : String :=
  let s := toString x.digits
  let n := s.length
  -- the value is 0.s times 10^point
  let point := x.exponent + n
  if point ≤ 0 then "0." ++ zeros (-point).toNat ++ s
  else if point < n then
    String.ofList (s.toList.take point.toNat) ++ "." ++ String.ofList (s.toList.drop point.toNat)
  else s ++ zeros (point.toNat - n)

/-- The plain form: no exponent, and a minus sign on every negative number and zero. -/
def plainText : Binary64 → String
  | .nan => "NaN"
  | .infinite negative => if negative then "-inf" else "inf"
  | .finite negative m q =>
    (if negative then "-" else "") ++ (if m = 0 then "0" else (shortest m q).positional)

/-- The pointed form: the plain form of a finite number ends in ".0" when it has no point. -/
def pointText (x : Binary64) : String :=
  match x with
  | .finite .. => let s := plainText x; if s.contains '.' then s else s ++ ".0"
  | _ => plainText x

/-- An exponent after "e", with its sign always written. -/
def exponentText (e : Int) : String :=
  "e" ++ (if 0 ≤ e then "+" else "") ++ toString e

/-- The form of a finite number in a JSON text. -/
def jsonText (negative : Bool) (m : Nat) (q : Int) : String :=
  let sign := if negative then "-" else ""
  if m = 0 then sign ++ "0.0"
  else
    let x := shortest m q
    let s := (toString x.digits).toList
    let len : Int := s.length
    let k := x.exponent
    let point := len + k
    sign ++
      if 0 ≤ k && point ≤ 16 then String.ofList s ++ zeros k.toNat ++ ".0"
      else if 0 < point && point ≤ 16 then
        String.ofList (s.take point.toNat) ++ "." ++ String.ofList (s.drop point.toNat)
      else if -5 < point && point ≤ 0 then "0." ++ zeros (-point).toNat ++ String.ofList s
      else if len = 1 then String.ofList s ++ exponentText (point - 1)
      else String.ofList (s.take 1) ++ "." ++ String.ofList (s.drop 1) ++ exponentText (point - 1)

end ChangeLog.Binary64
