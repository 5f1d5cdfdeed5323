import ChangeLog.Unicode.Printable
import ChangeLog.Unicode.GraphemeExtend
/-
  Quoted text for messages. A quoted text is framed by its quote mark; inside it the quote
  mark, the backslash, NUL, tab, line feed and carriage return take a backslash escape, and
  a character that is not printable or that extends a grapheme is written as its code point
  in lower-case hexadecimal, \u{…}. Everything else stands for itself.
-/

namespace ChangeLog.Text

/-- Lower-case hexadecimal digits of a number, most significant first, without leading zeros. -/
def hexDigits (n : Nat) : String :=
  String.ofList (Nat.toDigits 16 n)

/-- How one character is written inside a text quoted by the mark quote. -/
def escapeChar (quote : Char) (c : Char) : String :=
  if c = '\x00' then "\\0"
  else if c = '\t' then "\\t"
  else if c = '\r' then "\\r"
  else if c = '\n' then "\\n"
  else if c = '\\' then "\\\\"
  else if c = quote then "\\" ++ c.toString
  else if Unicode.isGraphemeExtend c || !Unicode.isPrintable c then
    "\\u\x7b" ++ hexDigits c.toNat ++ "\x7d"
  else c.toString

/-- A text in double quotes, escaped as above. -/
def quote (s : String) : String :=
  "\"" ++ String.join (s.toList.map (escapeChar '"')) ++ "\""

/-- A character in single quotes, escaped as above. -/
def quoteChar (c : Char) : String :=
  "'" ++ escapeChar '\'' c ++ "'"

end ChangeLog.Text
