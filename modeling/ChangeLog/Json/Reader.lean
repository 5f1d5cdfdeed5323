import ChangeLog.Json.Value
/-
  Reading JSON text. The reader walks the UTF-8 bytes of the text from the front and stops at
  the first fault. A fault is reported with the line and column it was found at, the column
  counting the bytes read on that line; a fault found by looking at a byte without taking it
  counts that byte too, except at the end of the text.

  Besides reading any value, the reader can read a value of an expected shape: a string, or
  a record of string fields. A value of another kind is then refused with a message that
  names what was found and what was expected, at the position reached once the offending
  value has been read (a list or an object is refused before it is read).
-/

namespace ChangeLog.Json

/-- The faults of JSON text. -/
inductive Fault where
  | eofList
  | eofObject
  | eofString
  | eofValue
  | expectedColon
  | expectedListCommaOrEnd
  | expectedObjectCommaOrEnd
  | expectedIdent
  | expectedValue
  | invalidEscape
  | invalidNumber
  | numberOutOfRange
  | invalidCodePoint
  | controlCharacter
  | keyMustBeString
  | loneSurrogate
  | unexpectedEndOfHexEscape
  | trailingComma
  | trailingCharacters
  | recursionLimit
  /-- A value of the wrong shape, or a record that cannot be built. -/
  | data (text : String)
  deriving DecidableEq, Repr

/-- The text of a fault. -/
def Fault.text : Fault → String
  | .eofList => "EOF while parsing a list"
  | .eofObject => "EOF while parsing an object"
  | .eofString => "EOF while parsing a string"
  | .eofValue => "EOF while parsing a value"
  | .expectedColon => "expected `:`"
  | .expectedListCommaOrEnd => "expected `,` or `]`"
  | .expectedObjectCommaOrEnd => "expected `,` or `\x7d`"
  | .expectedIdent => "expected ident"
  | .expectedValue => "expected value"
  | .invalidEscape => "invalid escape"
  | .invalidNumber => "invalid number"
  | .numberOutOfRange => "number out of range"
  | .invalidCodePoint => "invalid unicode code point"
  | .controlCharacter => "control character (\\u0000-\\u001F) found while parsing a string"
  | .keyMustBeString => "key must be a string"
  | .loneSurrogate => "lone leading surrogate in hex escape"
  | .unexpectedEndOfHexEscape => "unexpected end of hex escape"
  | .trailingComma => "trailing comma"
  | .trailingCharacters => "trailing characters"
  | .recursionLimit => "recursion limit exceeded"
  | .data t => t

/-- Whether a fault is a running out of text. -/
def Fault.isEof : Fault → Bool
  | .eofList | .eofObject | .eofString | .eofValue => true
  | _ => false

/-- Whether a fault is about the shape of a value rather than the text. -/
def Fault.isData : Fault → Bool
  | .data _ => true
  | _ => false

/-- A step of the path to a value: a field of an object or an element of an array. -/
inductive Segment where
  | field (name : String)
  | index (n : Nat)
  deriving Repr

/-- The text of a path: fields parted by dots, elements as their index in brackets with no dot
before them. -/
def pathText : List Segment → String
  | [] => ""
  | first :: rest =>
    let text : Segment → String
      | .field name => name
      | .index n => "[" ++ toString n ++ "]"
    rest.foldl (fun acc seg =>
      match seg with
      | .field _ => acc ++ "." ++ text seg
      | .index _ => acc ++ text seg) (text first)

/-- A fault, the byte index it was found at when known, and the path it arose under. -/
structure Error where
  fault : Fault
  index : Option Nat
  path : List Segment := []
  deriving Repr

/-- Line and column of a byte index: lines count from one, columns are bytes since the line began. -/
def lineColumn (bytes : ByteArray) (i : Nat) : Nat × Nat :=
  let before := (bytes.toList.take i)
  let lineStart := before.length - (before.reverse.takeWhile (· != 10)).length
  ((before.take lineStart).count 10 + 1, i - lineStart)

/-- The text of an error, with its position when it has one. -/
def Error.message (bytes : ByteArray) (e : Error) : String :=
  match e.index with
  | some i =>
    let (l, c) := lineColumn bytes i
    e.fault.text ++ " at line " ++ toString l ++ " column " ++ toString c
  | none => e.fault.text

/-- The text of an error with its field path in front, as a path-tracking reader reports it. -/
def Error.pathMessage (bytes : ByteArray) (e : Error) : String :=
  match e.path with
  | [] => e.message bytes
  | p => pathText p ++ ": " ++ e.message bytes

/-- What was found where something else was expected. -/
inductive Unexpected where
  | null
  | bool (b : Bool)
  | unsigned (n : Nat)
  | signed (i : Int)
  | float (x : Binary64)
  | str (s : String)
  | seq
  | map

/-- How a found value is named in a message. -/
def Unexpected.text : Unexpected → String
  | .null => "null"
  | .bool b => "boolean `" ++ (if b then "true" else "false") ++ "`"
  | .unsigned n => "integer `" ++ toString n ++ "`"
  | .signed i => "integer `" ++ toString i ++ "`"
  | .float x => "floating point `" ++ floatText x ++ "`"
  | .str s => "string " ++ Text.quote s
  | .seq => "sequence"
  | .map => "map"

/-- The message for a value of the wrong kind. -/
def invalidType (found : Unexpected) (expected : String) : String :=
  "invalid type: " ++ found.text ++ ", expected " ++ expected

/-- What a value is when it is found in place of another. -/
def Value.unexpected : Value → Unexpected
  | .null => .null
  | .bool b => .bool b
  | .int i => if i < 0 then .signed i else .unsigned i.toNat
  | .float x => .float x
  | .str s => .str s
  | .arr _ => .seq
  | .obj _ => .map

/-- A reader over the bytes of a text: it takes the index reached and gives the next one. -/
abbrev Reader := ReaderT ByteArray (StateT Nat (Except Error))

namespace Reader

/-- The byte at the index, if the text goes on. -/
def peek : Reader (Option UInt8) := fun bs i => .ok (bs[i]?, i)

/-- Takes one byte. -/
def eat : Reader Unit := fun _ i => .ok ((), i + 1)

/-- Takes and gives the byte at the index. -/
def next : Reader (Option UInt8) := fun bs i =>
  match bs[i]? with
  | some b => .ok (some b, i + 1)
  | none => .ok (none, i)

/-- A fault at the bytes read so far. -/
def fail (f : Fault) : Reader α := fun _ i => .error { fault := f, index := some i }

/-- A fault at the byte looked at, which is counted unless the text has ended. -/
def failAhead (f : Fault) : Reader α := fun bs i =>
  .error { fault := f, index := some (min (i + 1) bs.size) }

/-- The index reached. -/
def here : Reader Nat := fun _ i => .ok (i, i)

/-- The first index at or after i that is not a blank. -/
def skipFrom (bs : ByteArray) : Nat → Nat → Nat
  | 0, i => i
  | fuel + 1, i =>
    match bs[i]? with
    | some 32 | some 10 | some 9 | some 13 => skipFrom bs fuel (i + 1)
    | _ => i

/-- Skips blanks and looks at the byte after them. -/
def skipBlanks : Reader (Option UInt8) := fun bs i =>
  let j := skipFrom bs bs.size i
  .ok (bs[j]?, j)

/-- Reads the rest of a keyword, byte by byte. -/
def ident : List UInt8 → Reader Unit
  | [] => pure ()
  | b :: rest => do
    match ← next with
    | none => fail .eofValue
    | some c => if c = b then ident rest else fail .expectedIdent

/-- Whether a byte is a decimal digit. -/
def isDigit (b : UInt8) : Bool := 48 ≤ b && b ≤ 57

/-- The largest unsigned 64-bit integer: a significand keeps digits while it stays below it. -/
def unsignedMax : Nat := 18446744073709551615

/-- The largest signed 32-bit integer: a written exponent stays below it. -/
def exponentMax : Nat := 2147483647

/-- Keeps an exponent within the signed 32-bit range. -/
def saturate (e : Int) : Int := max (-2147483648) (min 2147483647 e)

/-- Takes the digits that follow. -/
def skipDigits : Nat → Reader Unit
  | 0 => pure ()
  | fuel + 1 => do
    match ← peek with
    | some b => if isDigit b then do eat; skipDigits fuel else pure ()
    | none => pure ()

/-- Scales a number by a power of ten: by the nearest power itself while the exponent is at
most 308, and otherwise by 10^-308 first. A product that overflows is out of range. -/
def scaleBy (f : Binary64) (e : Int) : Nat → Except Fault Binary64
  | 0 => .ok f
  | fuel + 1 =>
    if e.natAbs ≤ 308 then
      if 0 ≤ e then
        let g := f.mul (Binary64.pow10 e.natAbs)
        if g.isInfinite then .error .numberOutOfRange else .ok g
      else .ok (f.div (Binary64.pow10 e.natAbs))
    else if f.isZero then .ok f
    else if 0 ≤ e then .error .numberOutOfRange
    else scaleBy (f.div (Binary64.pow10 308)) (e + 308) fuel

/-- The number significand · 10^exponent as JSON numbers are read: the significand is rounded
first, then scaled. Eight steps are more than the scaling ever takes. -/
def fromParts (positive : Bool) (significand : Nat) (exponent : Int) : Reader Value :=
  match scaleBy (Binary64.ofNat significand) exponent 8 with
  | .ok f => pure (.float (if positive then f else f.neg))
  | .error e => fail e

/-- Reads the digits of an exponent onto e. An exponent that passes the 32-bit range makes a
nonzero number with a positive exponent out of range, and any other number zero. -/
def exponentDigits (positive : Bool) (significand : Nat) (start : Int) (up : Bool) :
    Nat → Nat → Reader Value
  | 0, e => fromParts positive significand (saturate (if up then start + e else start - e))
  | fuel + 1, e => do
    match ← peek with
    | some b =>
      if isDigit b then do
        eat
        let d := (b - 48).toNat
        if e * 10 + d > exponentMax then
          if significand ≠ 0 && up then fail .numberOutOfRange
          else do
            skipDigits fuel
            pure (.float (.finite (!positive) 0 Binary64.minExponent))
        else exponentDigits positive significand start up fuel (e * 10 + d)
      else fromParts positive significand (saturate (if up then start + e else start - e))
    | none => fromParts positive significand (saturate (if up then start + e else start - e))

/-- Reads an exponent, at its mark, onto the exponent of the digits read so far. -/
def exponent (fuel : Nat) (positive : Bool) (significand : Nat) (start : Int) : Reader Value := do
  eat
  let up ← do
    match ← peek with
    | some 43 => eat; pure true
    | some 45 => eat; pure false
    | _ => pure true
  match ← next with
  | none => fail .eofValue
  | some b =>
    if isDigit b then exponentDigits positive significand start up fuel (b - 48).toNat
    else fail .invalidNumber

/-- What may follow the digits of a number that is not an integer: an exponent, or nothing. -/
def afterDigits (fuel : Nat) (positive : Bool) (significand : Nat) (e : Int) : Reader Value := do
  match ← peek with
  | some 101 | some 69 => exponent fuel positive significand e
  | _ => fromParts positive significand e

/-- Reads the digits after a point onto the significand while it has room; later digits are
passed over. At least one digit must follow the point. -/
def fraction (positive : Bool) (before : Int) : Nat → Nat → Nat → Reader Value
  | 0, significand, taken => afterDigits 0 positive significand (before - taken)
  | fuel + 1, significand, taken => do
    let done : Reader Value := do
      if taken = 0 then
        match ← peek with
        | some _ => failAhead .invalidNumber
        | none => failAhead .eofValue
      else afterDigits fuel positive significand (before - taken)
    match ← peek with
    | some b =>
      if isDigit b then
        let d := (b - 48).toNat
        if significand * 10 + d > unsignedMax then do
          skipDigits fuel
          afterDigits fuel positive significand (before - taken)
        else do
          eat
          fraction positive before fuel (significand * 10 + d) (taken + 1)
      else done
    | none => done

/-- Counts the integer digits that no longer fit in the significand, as powers of ten. -/
def longInteger (positive : Bool) (significand : Nat) : Nat → Int → Reader Value
  | 0, e => fromParts positive significand e
  | fuel + 1, e => do
    match ← peek with
    | some 46 => do eat; fraction positive e fuel significand 0
    | some 101 | some 69 => exponent fuel positive significand e
    | some b =>
      if isDigit b then do eat; longInteger positive significand fuel (e + 1)
      else fromParts positive significand e
    | none => fromParts positive significand e

/-- What may follow the integer part: a point, an exponent, or nothing. A negative integer
beyond the signed 64-bit range, and minus zero, are read as floats. -/
def afterInteger (fuel : Nat) (positive : Bool) (significand : Nat) : Reader Value := do
  match ← peek with
  | some 46 => do eat; fraction positive 0 fuel significand 0
  | some 101 | some 69 => exponent fuel positive significand 0
  | _ =>
    if positive then pure (.int significand)
    else if 0 < significand && significand ≤ 9223372036854775808 then
      pure (.int (-(significand : Int)))
    else pure (.float (Binary64.ofNat significand).neg)

/-- Reads the digits of an integer part onto the significand while it has room. -/
def integerDigits (positive : Bool) : Nat → Nat → Reader Value
  | 0, significand => afterInteger 0 positive significand
  | fuel + 1, significand => do
    match ← peek with
    | some b =>
      if isDigit b then
        let d := (b - 48).toNat
        if significand * 10 + d > unsignedMax then longInteger positive significand fuel 0
        else do eat; integerDigits positive fuel (significand * 10 + d)
      else afterInteger fuel positive significand
    | none => afterInteger fuel positive significand

/-- Reads a number whose sign has been read. -/
def number (positive : Bool) : Reader Value := do
  let fuel := (← read).size
  match ← next with
  | none => fail .eofValue
  | some 48 =>
    match ← peek with
    | some b => if isDigit b then failAhead .invalidNumber else afterInteger fuel positive 0
    | none => afterInteger fuel positive 0
  | some b =>
    if isDigit b then integerDigits positive fuel (b - 48).toNat
    else fail .invalidNumber

/-- The value of a hexadecimal digit byte. -/
def hexValue (b : UInt8) : Option Nat :=
  if 48 ≤ b && b ≤ 57 then some (b - 48).toNat
  else if 97 ≤ b && b ≤ 102 then some (b - 87).toNat
  else if 65 ≤ b && b ≤ 70 then some (b - 55).toNat
  else none

/-- Reads the four hexadecimal digits of an escape. -/
def hex4 : Reader Nat := fun bs i =>
  if i + 4 ≤ bs.size then
    match hexValue (bs[i]?.getD 0), hexValue (bs[i+1]?.getD 0), hexValue (bs[i+2]?.getD 0),
      hexValue (bs[i+3]?.getD 0) with
    | some a, some b, some c, some d => .ok (((a * 16 + b) * 16 + c) * 16 + d, i + 4)
    | _, _, _, _ => .error { fault := .invalidEscape, index := some (i + 4) }
  else .error { fault := .eofString, index := some bs.size }

/-- The UTF-8 bytes of a code point. -/
def utf8 (n : Nat) : List UInt8 :=
  (Char.ofNat n).toString.toUTF8.toList

/-- Reads a \u escape whose u has been read. -/
def unicodeEscape : Reader (List UInt8) := do
  let n ← hex4
  if 0xDC00 ≤ n && n ≤ 0xDFFF then fail .loneSurrogate
  else if n < 0xD800 || n > 0xDBFF then pure (utf8 n)
  else
    match ← peek with
    | none => fail .eofString
    | some 92 => do
      eat
      match ← peek with
      | none => fail .eofString
      | some 117 => do
        eat
        let m ← hex4
        if m < 0xDC00 || m > 0xDFFF then fail .loneSurrogate
        else pure (utf8 (((n - 0xD800) * 1024 + (m - 0xDC00)) + 0x10000))
      | some _ => do eat; fail .unexpectedEndOfHexEscape
    | some _ => do eat; fail .unexpectedEndOfHexEscape

/-- Reads the escape after a backslash. -/
def escape : Reader (List UInt8) := do
  match ← next with
  | none => fail .eofString
  | some 34 => pure [34]
  | some 92 => pure [92]
  | some 47 => pure [47]
  | some 98 => pure [8]
  | some 102 => pure [12]
  | some 110 => pure [10]
  | some 114 => pure [13]
  | some 116 => pure [9]
  | some 117 => unicodeEscape
  | some _ => fail .invalidEscape

/-- Reads the body of a string whose opening quote has been read. -/
def stringBody : Nat → Array UInt8 → Reader String
  | 0, _ => fail .eofString
  | fuel + 1, acc => do
    match ← peek with
    | none => fail .eofString
    | some 34 => do
      eat
      match String.fromUTF8? (ByteArray.mk acc) with
      | some s => pure s
      | none => fail .invalidCodePoint
    | some 92 => do
      eat
      let bs ← escape
      stringBody fuel (acc ++ bs.toArray)
    | some b =>
      if b < 32 then do
        eat
        fail .controlCharacter
      else do
        eat
        stringBody fuel (acc.push b)

/-- Reads a string whose opening quote has been read. -/
def string : Reader String := do
  stringBody (← read).size #[]

/-- Reads the colon between a key and its value. -/
def colon : Reader Unit := do
  match ← skipBlanks with
  | some 58 => eat
  | some _ => failAhead .expectedColon
  | none => failAhead .eofObject

/-- Where a list or object stands after a separator: at the next item, or at its end. -/
inductive Step where
  | item
  | close

/-- Moves to the next item of a list: the first, or the one after a comma. -/
def listStep (first : Bool) : Reader Step := do
  match ← skipBlanks with
  | some 93 => pure .close
  | some 44 =>
    if first then pure .item
    else do
      eat
      match ← skipBlanks with
      | some 93 => failAhead .trailingComma
      | some _ => pure .item
      | none => failAhead .eofValue
  | some _ => if first then pure .item else failAhead .expectedListCommaOrEnd
  | none => failAhead .eofList

/-- Moves to the next key of an object and reads it. -/
def objectStep (first : Bool) : Reader (Option String) := do
  let peeked ← do
    match ← skipBlanks with
    | some 125 => pure none
    | some 44 =>
      if first then pure (some (some 44))
      else do eat; pure (some (← skipBlanks))
    | some b => if first then pure (some (some b)) else failAhead .expectedObjectCommaOrEnd
    | none => failAhead .eofObject
  match peeked with
  | none => pure none
  | some (some 34) => do eat; pure (some (← string))
  | some (some 125) => failAhead .trailingComma
  | some (some _) => failAhead .keyMustBeString
  | some none => failAhead .eofValue

/-- Closes a list after its items. -/
def endList : Reader Unit := do
  match ← skipBlanks with
  | some 93 => eat
  | some 44 => do
    eat
    match ← skipBlanks with
    | some 93 => failAhead .trailingComma
    | _ => failAhead .trailingCharacters
  | some _ => failAhead .trailingCharacters
  | none => failAhead .eofList

/-- Closes an object after its fields. -/
def endObject : Reader Unit := do
  match ← skipBlanks with
  | some 125 => eat
  | some 44 => failAhead .trailingComma
  | some _ => failAhead .trailingCharacters
  | none => failAhead .eofObject

/-- Nesting allowed below the top. -/
def depthLimit : Nat := 127

mutual

/-- Reads any value, at most depth more levels deep. -/
def value : Nat → Nat → Reader Value
  | 0, _ => fail .recursionLimit
  | fuel + 1, depth => do
    match ← skipBlanks with
    | none => failAhead .eofValue
    | some 110 => do eat; ident [117, 108, 108]; pure .null
    | some 116 => do eat; ident [114, 117, 101]; pure (.bool true)
    | some 102 => do eat; ident [97, 108, 115, 101]; pure (.bool false)
    | some 45 => do eat; number false
    | some 34 => do eat; pure (.str (← string))
    | some 91 =>
      if depth = 0 then failAhead .recursionLimit
      else do
        eat
        let items ← listItems fuel (depth - 1) true []
        endList
        pure (.arr items)
    | some 123 =>
      if depth = 0 then failAhead .recursionLimit
      else do
        eat
        let fields ← objectFields fuel (depth - 1) true []
        endObject
        pure (.obj fields)
    | some b => if isDigit b then number true else failAhead .expectedValue

/-- Reads the items of a list up to its closing bracket. -/
def listItems : Nat → Nat → Bool → List Value → Reader (List Value)
  | 0, _, _, _ => fail .recursionLimit
  | fuel + 1, depth, first, acc => do
    match ← listStep first with
    | .close => pure acc.reverse
    | .item => do
      let v ← value fuel depth
      listItems fuel depth false (v :: acc)

/-- Reads the fields of an object up to its closing brace. -/
def objectFields : Nat → Nat → Bool → List (String × Value) → Reader (List (String × Value))
  | 0, _, _, _ => fail .recursionLimit
  | fuel + 1, depth, first, acc => do
    match ← objectStep first with
    | none => pure acc.reverse
    | some k => do
      colon
      let v ← value fuel depth
      objectFields fuel depth false ((k, v) :: acc)

end

/-- Reads any value with enough fuel for the whole text. -/
def anyValue : Reader Value := do
  value (2 * (← read).size + 2) depthLimit

/-! ## Skipping a value

A value that is not wanted is passed over without being read: its brackets may nest to any
depth, its numbers are not computed and its escapes not decoded. Its faults differ a little
from those of reading: a comma before a closing bracket is a missing value or key, a number
cut short is an invalid number, and a control character in a string is reported before it. -/

/-- Skips an exponent, at its mark. -/
def skipExponent (fuel : Nat) : Reader Unit := do
  eat
  match ← peek with
  | some 43 | some 45 => eat
  | _ => pure ()
  match ← next with
  | some b => if isDigit b then skipDigits fuel else fail .invalidNumber
  | none => fail .invalidNumber

/-- Skips a number whose sign, if any, has been taken. -/
def skipNumber : Reader Unit := do
  let fuel := (← read).size
  match ← next with
  | some 48 =>
    match ← peek with
    | some b => if isDigit b then failAhead .invalidNumber else pure ()
    | none => pure ()
  | some b => if isDigit b then skipDigits fuel else fail .invalidNumber
  | none => fail .invalidNumber
  match ← peek with
  | some 46 => do
    eat
    let start ← here
    skipDigits fuel
    if (← here) = start then failAhead .invalidNumber
    match ← peek with
    | some 101 | some 69 => skipExponent fuel
    | _ => pure ()
  | some 101 | some 69 => skipExponent fuel
  | _ => pure ()

/-- Skips the escape after a backslash. -/
def skipEscape : Reader Unit := do
  match ← next with
  | none => fail .eofString
  | some b =>
    if b = 34 || b = 92 || b = 47 || b = 98 || b = 102 || b = 110 || b = 114 || b = 116 then
      pure ()
    else if b = 117 then do let _ ← hex4
    else fail .invalidEscape

/-- Skips the body of a string whose opening quote has been taken. -/
def skipString : Nat → Reader Unit
  | 0 => fail .eofString
  | fuel + 1 => do
    match ← peek with
    | none => fail .eofString
    | some 34 => eat
    | some 92 => do eat; skipEscape; skipString fuel
    | some b => if b < 32 then fail .controlCharacter else do eat; skipString fuel

/-- Where skipping stands: at a value, after a value or an opening bracket (where a comma
is allowed only after a value), or at the key of an object. -/
inductive SkipPhase where
  | value
  | close (afterValue : Bool)
  | key

/-- Skips values, keeping the open lists (true) and objects (false), innermost first. -/
def skipSteps : Nat → SkipPhase → List Bool → Reader Unit
  | 0, _, _ => fail .eofValue
  | fuel + 1, .value, open_ => do
    match ← skipBlanks with
    | none => failAhead .eofValue
    | some 110 => do eat; ident [117, 108, 108]; skipSteps fuel (.close true) open_
    | some 116 => do eat; ident [114, 117, 101]; skipSteps fuel (.close true) open_
    | some 102 => do eat; ident [97, 108, 115, 101]; skipSteps fuel (.close true) open_
    | some 45 => do eat; skipNumber; skipSteps fuel (.close true) open_
    | some 34 => do eat; skipString (← read).size; skipSteps fuel (.close true) open_
    | some 91 => do eat; skipSteps fuel (.close false) (true :: open_)
    | some 123 => do eat; skipSteps fuel (.close false) (false :: open_)
    | some b =>
      if isDigit b then do skipNumber; skipSteps fuel (.close true) open_
      else failAhead .expectedValue
  | fuel + 1, .close afterValue, open_ =>
    match open_ with
    | [] => pure ()
    | isList :: outer => do
      let next : SkipPhase := if isList then .value else .key
      match ← skipBlanks with
      | none => failAhead (if isList then .eofList else .eofObject)
      | some b =>
        if b = 44 && afterValue then do eat; skipSteps fuel next open_
        else if (b = 93 && isList) || (b = 125 && !isList) then do
          eat
          skipSteps fuel (.close true) outer
        else if afterValue then
          failAhead (if isList then .expectedListCommaOrEnd else .expectedObjectCommaOrEnd)
        else skipSteps fuel next open_
  | fuel + 1, .key, open_ => do
    match ← skipBlanks with
    | some 34 => do
      eat
      skipString (← read).size
      match ← skipBlanks with
      | some 58 => do eat; skipSteps fuel .value open_
      | some _ => failAhead .expectedColon
      | none => failAhead .eofObject
    | some _ => failAhead .keyMustBeString
    | none => failAhead .eofObject

/-- Skips a value with enough steps for the whole text. -/
def skipValue : Reader Unit := do
  skipSteps (2 * (← read).size + 4) .value []

/-- A fault about the shape of a value, placed at the bytes read so far unless already placed. -/
def place (e : Error) : Reader α := fun _ i =>
  match e.index with
  | some _ => .error e
  | none => .error { e with index := some i }

/-- Refuses the value ahead, which is not what was expected, naming what it is. -/
def refuse (expected : String) : Reader α := do
  match ← skipBlanks with
  | some 91 => place { fault := .data (invalidType .seq expected), index := none }
  | some 123 => place { fault := .data (invalidType .map expected), index := none }
  | some b =>
    if b = 110 || b = 116 || b = 102 || b = 45 || b = 34 || isDigit b then do
      let v ← anyValue
      place { fault := .data (invalidType v.unexpected expected), index := none }
    else failAhead .expectedValue
  | none => failAhead .eofValue

/-- Reads a string where a string is expected. -/
def text : Reader String := do
  match ← skipBlanks with
  | some 34 => do eat; string
  | _ => refuse "a string"

/-- Runs a reader, giving its fault together with the index reached. -/
def attempt (r : Reader α) : Reader (Except Error α) := fun bs i =>
  match r bs i with
  | .ok (a, j) => .ok (.ok a, j)
  | .error e => .ok (.error e, i)

/-- Adds a field name to the path of a fault. -/
def under (name : String) (r : Reader α) : Reader α := fun bs i =>
  match r bs i with
  | .ok x => .ok x
  | .error e => .error { e with path := .field name :: e.path }

/-- Adds an element index to the path of a fault. -/
def atIndex (n : Nat) (r : Reader α) : Reader α := fun bs i =>
  match r bs i with
  | .ok x => .ok x
  | .error e => .error { e with path := .index n :: e.path }

/-- Ends the text: only blanks may follow the value. -/
def finish : Reader Unit := do
  match ← skipBlanks with
  | some _ => failAhead .trailingCharacters
  | none => pure ()

end Reader

/-- A field of a record of strings: its name and whether it may be left out (then it is empty). -/
structure FieldSpec where
  name : String
  optional : Bool

namespace Reader

/-- Reads the fields of an object into a record of strings, in the order the text gives them;
fields of other names are skipped. -/
def recordFields (specs : List FieldSpec) :
    Nat → Bool → List (String × String) → Reader (List (String × String))
  | 0, _, _ => fail .recursionLimit
  | fuel + 1, first, acc => do
    match ← objectStep first with
    | none => pure acc
    | some k =>
      if specs.any (·.name == k) then
        if acc.any (·.1 == k) then
          place { fault := .data ("duplicate field `" ++ k ++ "`"), index := none }
        else do
          colon
          let v ← under k text
          recordFields specs fuel false (acc ++ [(k, v)])
      else do
        colon
        under k skipValue
        recordFields specs fuel false acc

/-- The value of a field of a record, or its default when it may be left out. -/
def fieldValue (specs : List FieldSpec) (given : List (String × String)) :
    Except String (List (String × String)) :=
  specs.mapM fun s =>
    match given.find? (·.1 == s.name) with
    | some (_, v) => .ok (s.name, v)
    | none => if s.optional then .ok (s.name, "") else .error ("missing field `" ++ s.name ++ "`")

/-- Reads the items of a list into a record of strings, in field order. -/
def recordItems (record : String) (specs : List FieldSpec) :
    List FieldSpec → Nat → List (String × String) → Reader (List (String × String))
  | [], _, acc => pure acc
  | s :: rest, i, acc => do
    match ← listStep (i = 0) with
    | .close =>
      if s.optional then recordItems record specs rest (i + 1) (acc ++ [(s.name, "")])
      else do
        eat
        place { fault := .data ("invalid length " ++ toString i ++ ", expected struct " ++
          record ++ " with " ++ toString specs.length ++ " elements"), index := none }
    | .item => do
      let v ← atIndex i text
      recordItems record specs rest (i + 1) (acc ++ [(s.name, v)])

/-- Reads a record of string fields from an object or a list. A fault of the record itself is
placed after the closing bracket has been read, as far as the text allows. -/
def record (name : String) (specs : List FieldSpec) : Reader (List (String × String)) := do
  match ← skipBlanks with
  | some 123 => do
    eat
    let got ← attempt (recordFields specs ((← read).size + 1) true [])
    let closed ← attempt endObject
    match got, closed with
    | .error e, _ => place e
    | .ok given, .ok () =>
      match fieldValue specs given with
      | .ok r => pure r
      | .error t => place { fault := .data t, index := none }
    | .ok _, .error e => place e
  | some 91 => do
    eat
    let got ← attempt (recordItems name specs specs 0 [])
    let closed ← attempt endList
    match got, closed with
    | .error e, _ => place e
    | .ok r, .ok () => pure r
    | .ok _, .error e => place e
  | _ => refuse ("struct " ++ name)

/-- Runs a reader over a whole text. -/
def run (r : Reader α) (bytes : ByteArray) : Except Error α :=
  match (do let a ← r; finish; pure a) bytes 0 with
  | .ok (a, _) => .ok a
  | .error e => .error e

/-- Runs a reader over the start of a text; what follows the value is not looked at. -/
def runLeading (r : Reader α) (bytes : ByteArray) : Except Error α :=
  match r bytes 0 with
  | .ok (a, _) => .ok a
  | .error e => .error e

end Reader

/-- Reads a JSON text as a value. -/
def parse (s : String) : Except String Value :=
  let bytes := s.toUTF8
  match Reader.run Reader.anyValue bytes with
  | .ok v => .ok v
  | .error e => .error (e.message bytes)

end ChangeLog.Json
