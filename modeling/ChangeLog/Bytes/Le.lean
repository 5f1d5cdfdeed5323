import ChangeLog.Bytes.Hex
/-
  Little-endian integers: a number of k bytes is written least significant byte first, and
  read back as the sum of each byte times 256 to its place.
-/

namespace ChangeLog.Le

/-- The k least significant bytes of a number, least significant first. -/
def encode : Nat → Nat → Bytes
  | 0, _ => []
  | k + 1, n => (n % 256).toUInt8 :: encode k (n / 256)

/-- The number a byte string denotes, least significant byte first. -/
def value : Bytes → Nat
  | [] => 0
  | b :: rest => b.toNat + 256 * value rest

/-- Eight bytes of a 64-bit word. -/
def u64 (n : Nat) : Bytes := encode 8 n

/-- Four bytes of a 32-bit word. -/
def u32 (n : Nat) : Bytes := encode 4 n

/-- Eight bytes of a signed 64-bit integer, in two's complement. -/
def i64 (i : Int) : Bytes := encode 8 (if i < 0 then (18446744073709551616 + i).toNat else i.toNat)

@[simp] theorem encode_length (k n : Nat) : (encode k n).length = k := by
  induction k generalizing n with
  | zero => rfl
  | succ k ih => simp [encode, ih]

theorem value_lt (bs : Bytes) : value bs < Nat.pow 256 bs.length := by
  induction bs with
  | nil => simp [value]
  | cons b rest ih =>
    have hb := b.toNat_lt
    show value (b :: rest) < Nat.pow 256 rest.length * 256
    simp only [value]
    omega

theorem value_encode (k n : Nat) (h : n < Nat.pow 256 k) : value (encode k n) = n := by
  induction k generalizing n with
  | zero =>
    have h0 : n = 0 := by
      have : n < 1 := h
      omega
    simp [encode, value, h0]
  | succ k ih =>
    have small : n / 256 < Nat.pow 256 k := by
      have h' : n < Nat.pow 256 k * 256 := h
      exact Nat.div_lt_of_lt_mul (by rw [Nat.mul_comm]; exact h')
    simp only [encode, value, ih _ small]
    have : ((n % 256).toUInt8).toNat = n % 256 := by
      simp [Nat.toUInt8, Nat.mod_mod_of_dvd]
    rw [this]
    omega

end ChangeLog.Le
