/-
  The White_Space property and the control characters (general category Cc) of Unicode.
  Identifiers refuse both; an event type made of white space alone counts as empty.
-/

namespace ChangeLog.Unicode

/-- The 25 code points with the White_Space property. -/
def isWhiteSpace (c : Char) : Bool :=
  let n := c.toNat
  (0x9 ≤ n && n ≤ 0xD) || n == 0x20 || n == 0x85 || n == 0xA0 || n == 0x1680 ||
    (0x2000 ≤ n && n ≤ 0x200A) || n == 0x2028 || n == 0x2029 || n == 0x202F ||
    n == 0x205F || n == 0x3000

/-- The control characters: the C0 block, delete, and the C1 block. -/
def isControl (c : Char) : Bool :=
  let n := c.toNat
  n < 0x20 || (0x7F ≤ n && n ≤ 0x9F)

/-- A text is blank when every character of it is white space (the empty text included). -/
def isBlank (s : String) : Bool :=
  s.toList.all isWhiteSpace

end ChangeLog.Unicode
