/-
  Decimal numbers as text: an optional sign and then digits, read from the left within the
  limits of a 64-bit integer. The first fault found from the left is reported: a character
  that is not a digit, or a value past the limits.
-/

namespace ChangeLog

/-- Why a number does not read. -/
inductive NumberFault where
  | empty
  | invalidDigit
  | tooLarge
  | tooSmall
  deriving DecidableEq, Repr

/-- The text of a number fault. -/
def NumberFault.message : NumberFault → String
  | .empty => "cannot parse integer from empty string"
  | .invalidDigit => "invalid digit found in string"
  | .tooLarge => "number too large to fit in target type"
  | .tooSmall => "number too small to fit in target type"

/-- Reads decimal digits, the value kept within a bound. -/
def readDigits (bound : Nat) (fault : NumberFault) : List Char → Nat → Except NumberFault Nat
  | [], acc => .ok acc
  | c :: rest, acc =>
    if c.isDigit then
      let acc' := acc * 10 + (c.toNat - 48)
      if acc' > bound then .error fault else readDigits bound fault rest acc'
    else .error .invalidDigit

/-- Reads a signed 64-bit number. -/
def readSigned (s : String) : Except NumberFault Int :=
  match s.toList with
  | [] => .error .empty
  | ['+'] | ['-'] => .error .invalidDigit
  | '-' :: ds => (readDigits 9223372036854775808 .tooSmall ds 0).map fun n => -(n : Int)
  | '+' :: ds => (readDigits 9223372036854775807 .tooLarge ds 0).map Int.ofNat
  | ds => (readDigits 9223372036854775807 .tooLarge ds 0).map Int.ofNat

/-- Reads an unsigned 64-bit number. -/
def readUnsigned (s : String) : Except NumberFault Nat :=
  match s.toList with
  | [] => .error .empty
  | ['+'] => .error .invalidDigit
  | '+' :: ds => readDigits 18446744073709551615 .tooLarge ds 0
  | ds => readDigits 18446744073709551615 .tooLarge ds 0

end ChangeLog
