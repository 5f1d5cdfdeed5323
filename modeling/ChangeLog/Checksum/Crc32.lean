import ChangeLog.Bytes.Le
/-
  CRC-32 in its common form (IEEE 802.3): the reflected polynomial 0xEDB88320, an initial
  register of all ones, and the register inverted at the end. The checksum is a left fold
  of one byte step over the input, so the checksum of a concatenation continues from the
  register of the first part.
-/

namespace ChangeLog.Crc32

/-- One shift of the register: the polynomial is added when the bit shifted out is set. -/
def shift (r : UInt32) : UInt32 :=
  if r &&& 1 = 1 then (r >>> 1) ^^^ 0xEDB88320 else r >>> 1

/-- One byte step: the byte enters the register, then eight shifts. -/
def step (r : UInt32) (b : UInt8) : UInt32 :=
  (Nat.repeat shift 8) (r ^^^ b.toUInt32)

/-- The register after a byte string, from a starting register. -/
def update (r : UInt32) (bs : Bytes) : UInt32 :=
  bs.foldl step r

/-- The checksum of a byte string. -/
def checksum (bs : Bytes) : UInt32 :=
  update 0xFFFFFFFF bs ^^^ 0xFFFFFFFF

theorem update_append (r : UInt32) (xs ys : Bytes) :
    update r (xs ++ ys) = update (update r xs) ys := by
  simp [update, List.foldl_append]

end ChangeLog.Crc32
