import ChangeLog.Bytes.Hex
/-
  UUIDs and their text. A UUID is 16 bytes, written as 32 lower-case hexadecimal digits in
  groups of 8, 4, 4, 4 and 12 joined by hyphens. Reading accepts that form in either case,
  the 32 digits without hyphens, the form in braces, and the form after "urn:uuid:" in
  either case. A text longer than any accepted form is refused for its length; a text of
  another shape is refused for the first of: a character that is not a digit or hyphen, a
  plain text of the wrong length, the wrong number of groups, or the first group of the
  wrong length.
-/

namespace ChangeLog

/-- Sixteen bytes. -/
structure Uuid where
  bytes : Bytes
  size : bytes.length = 16

namespace Uuid

/-- Why a text is not a UUID. -/
inductive Error where
  | char (c : Char) (index : Nat)
  | length (len : Nat)
  | groupCount (count : Nat)
  | groupLength (group len : Nat)
  deriving DecidableEq, Repr

/-- The lengths of the five groups. -/
def groupSizes : List Nat := [8, 4, 4, 4, 12]

/-- The text of a UUID error. -/
def Error.message : Error → String
  | .char c i => "invalid character: found `" ++ c.toString ++ "` at " ++ toString i
  | .length n => "invalid length: found " ++ toString n
  | .groupCount n => "invalid group count: expected 5, found " ++ toString n
  | .groupLength g n =>
    "invalid group length in group " ++ toString g ++ ": expected " ++
      toString (groupSizes.getD g 0) ++ ", found " ++ toString n

/-- The lower-case hyphenated text. -/
def toText (u : Uuid) : String :=
  let h := Hex.encode u.bytes
  let cs := h.toList
  String.ofList (cs.take 8) ++ "-" ++ String.ofList ((cs.drop 8).take 4) ++ "-" ++
    String.ofList ((cs.drop 12).take 4) ++ "-" ++ String.ofList ((cs.drop 16).take 4) ++ "-" ++
    String.ofList (cs.drop 20)

/-- Bytes from 32 hexadecimal digits. -/
def ofDigits (ds : List Char) : Option Uuid :=
  match Hex.decode (String.ofList ds) with
  | .ok bs => if h : bs.length = 16 then some ⟨bs, h⟩ else none
  | .error _ => none

/-- Whether a character is a hexadecimal digit. -/
def isHexDigit (c : Char) : Bool :=
  ('0' ≤ c && c ≤ '9') || ('a' ≤ c && c ≤ 'f') || ('A' ≤ c && c ≤ 'F')

/-- The digits of the hyphenated form, if the hyphens stand where they should. -/
def hyphenatedDigits (cs : List Char) : Option (List Char) :=
  if cs.length = 36 && cs.getD 8 ' ' = '-' && cs.getD 13 ' ' = '-' && cs.getD 18 ' ' = '-' &&
      cs.getD 23 ' ' = '-' then
    let ds := cs.filter (· != '-')
    if ds.length = 32 then some ds else none
  else none

/-- Whether a text starts with "urn:uuid:", letters in either case. -/
def hasUrnPrefix (cs : List Char) : Bool :=
  (cs.take 9).map Char.toLower = "urn:uuid:".toList

/-- The longest accepted form, the one after "urn:uuid:", has 45 bytes. -/
def longestForm : Nat := 45

/-- The body of a text with its wrapping taken off, where the body starts, and whether the
text was plain. -/
def unwrap (cs : List Char) : List Char × Nat × Bool :=
  if cs.head? = some '{' && cs.getLast? = some '}' && cs.length ≥ 2 then
    ((cs.drop 1).dropLast, 1, false)
  else if hasUrnPrefix cs then (cs.drop 9, 9, false)
  else (cs, 0, true)

/-- The first character of a body that is neither a digit nor a hyphen, with its byte index. -/
def firstBad : List Char → Nat → Option (Char × Nat)
  | [], _ => none
  | c :: rest, i =>
    if c.toNat ≥ 128 || (c != '-' && !isHexDigit c) then some (c, i)
    else firstBad rest (i + c.utf8Size)

/-- The group whose hyphen is out of place, given the places of the hyphens; when all four
stand right, the last group is the one too long, its length counted from the whole text. -/
def firstWrongGroup (total : Nat) : List Nat → Nat → Error
  | [], _ => .groupLength 4 (total - 24)
  | b :: rest, g =>
    let starts := [0, 9, 14, 19, 24]
    if b + 1 = starts.getD (g + 1) 0 then firstWrongGroup total rest (g + 1)
    else .groupLength g (b - starts.getD g 0)

/-- The reason a body is not a UUID: a bad character (its index counted from where the body
starts in a text of the given length), a plain text of the wrong length, the wrong number of
groups, or a group of the wrong length. -/
def examine (body : List Char) (start : Nat) (plain : Bool) (total : Nat) : Error :=
  match firstBad body 0 with
  | some (c, i) => .char c (i + start)
  | none =>
    let hyphens := (body.zipIdx.filter (·.1 == '-')).map (·.2)
    if hyphens.isEmpty && plain then .length total
    else if hyphens.length ≠ 4 then .groupCount (hyphens.length + 1)
    else firstWrongGroup total hyphens 0

/-- The reason a text of the wrong shape is refused. A text with the length of one of the
hyphenated forms is judged as that form alone: 36 bytes as the bare form, 38 in braces and
45 after the prefix as their 36-byte bodies. Any other text is judged with its braces or its
prefix taken off. -/
def diagnose (cs : List Char) : Error :=
  let size := (String.ofList cs).utf8ByteSize
  if size > longestForm then .length size
  else if size = 36 then examine cs 0 false size
  else if size = 38 && cs.head? = some '{' && cs.getLast? = some '}' then
    examine ((cs.drop 1).dropLast) 0 false 36
  else if size = 45 && hasUrnPrefix cs then examine (cs.drop 9) 0 false 36
  else
    let (body, start, plain) := unwrap cs
    examine body start plain size

/-- Reads a UUID from any of its accepted forms. -/
def parse (s : String) : Except Error Uuid :=
  let cs := s.toList
  let attempt : Option Uuid :=
    if s.utf8ByteSize = 32 then
      if cs.all isHexDigit then ofDigits cs else none
    else if s.utf8ByteSize = 36 then (hyphenatedDigits cs).bind fun ds =>
      if ds.all isHexDigit then ofDigits ds else none
    else if s.utf8ByteSize = 38 && cs.head? = some '{' && cs.getLast? = some '}' then
      (hyphenatedDigits ((cs.drop 1).dropLast)).bind fun ds =>
        if ds.all isHexDigit then ofDigits ds else none
    else if s.utf8ByteSize = 45 && hasUrnPrefix cs then
      (hyphenatedDigits (cs.drop 9)).bind fun ds =>
        if ds.all isHexDigit then ofDigits ds else none
    else none
  match attempt with
  | some u => .ok u
  | none => .error (diagnose cs)

/-- The version, the high four bits of byte 6. -/
def version (u : Uuid) : Nat := (u.bytes.getD 6 0).toNat / 16

/-- Whether the variant bits of byte 8 are 10, the variant of RFC 9562. -/
def variantOk (u : Uuid) : Bool := (u.bytes.getD 8 0).toNat / 64 = 2

end Uuid
end ChangeLog
