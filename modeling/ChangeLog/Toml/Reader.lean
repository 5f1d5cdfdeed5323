import ChangeLog.Toml.Value
/-
  Reading TOML text. The reader walks the characters once, keeping the byte offset of
  each, and builds the top-level table entry by entry. A failure carries the byte offset
  where reading stopped and the message of what was expected there; failures that only
  mean "not this form" let the caller try another form, the others end reading.

  Keys are bare, quoted or literal, joined by dots. Values are strings in their four
  forms, integers in four bases with single underscores between digits, floats, booleans,
  dates and times, arrays and inline tables. A key may be given only once in a table.
-/

namespace ChangeLog.Toml

/-- Why reading stopped: where, what was expected, and whether another form may be tried. -/
structure Fault where
  pos : Nat
  message : String
  final : Bool := true
  deriving Repr

/-- What is left to read and the byte offset of its first character. -/
structure Cursor where
  rest : List Char
  pos : Nat

/-- A reader of TOML text. -/
abbrev Parse (α : Type) := StateT Cursor (Except Fault) α

namespace Parse

/-- The next character. -/
def peek : Parse (Option Char) := do pure (← get).rest.head?

/-- The next characters, at most n. -/
def peekN (n : Nat) : Parse (List Char) := do pure ((← get).rest.take n)

/-- The byte offset of the next character. -/
def here : Parse Nat := do pure (← get).pos

/-- Moves past one character. -/
def bump : Parse Unit := modify fun c =>
  match c.rest with
  | [] => c
  | ch :: r => ⟨r, c.pos + ch.utf8Size⟩

/-- Moves past n characters. -/
def bumpN : Nat → Parse Unit
  | 0 => pure ()
  | n + 1 => do bump; bumpN n

/-- Stops reading here. -/
def stop {α : Type} (message : String) : Parse α := do throw ⟨← here, message, true⟩

/-- Fails here, letting the caller try another form. -/
def reject {α : Type} (message : String := "") : Parse α := do throw ⟨← here, message, false⟩

/-- Runs a reader; when it rejects, restores the input and gives none. -/
def attempt {α : Type} (p : Parse α) : Parse (Option α) := fun c =>
  match p c with
  | .ok (a, c') => .ok (some a, c')
  | .error f => if f.final then .error f else .ok (none, c)

/-- Makes every failure of a reader final. -/
def commit {α : Type} (p : Parse α) : Parse α := fun c =>
  match p c with
  | .ok r => .ok r
  | .error f => .error { f with final := true }

/-- Takes characters while they satisfy a test. -/
def takeWhile (p : Char → Bool) : Parse (List Char) := do
  let c ← get
  let taken := c.rest.takeWhile p
  set (Cursor.mk (c.rest.drop taken.length) (c.pos + (String.ofList taken).utf8ByteSize))
  pure taken

/-- Skips spaces and tabs. -/
def ws : Parse Unit := do let _ ← takeWhile fun c => c = ' ' || c = '\t'

/-- Characters a comment may hold. -/
def isCommentChar (c : Char) : Bool := c = '\t' || (c.toNat ≥ 0x20 && c.toNat ≠ 0x7F)

/-- Skips a comment, if one starts here. -/
def comment : Parse Unit := do
  if (← peek) = some '#' then
    bump
    let _ ← takeWhile isCommentChar

/-- Reads a line break, or rejects. -/
def newline : Parse Unit := do
  match ← peekN 2 with
  | '\n' :: _ => bump
  | ['\r', '\n'] => bumpN 2
  | _ => reject "expected newline"

/-- Skips blanks, comments and line breaks. -/
def blankLines : Nat → Parse Unit
  | 0 => pure ()
  | fuel + 1 => do
    ws
    comment
    match ← attempt newline with
    | some () => blankLines fuel
    | none => pure ()

/-- The end of a line after a value or header: blanks, a comment, then a break or the end. -/
def lineEnd : Parse Unit := do
  ws
  comment
  match ← peek with
  | none => pure ()
  | some _ =>
    match ← attempt newline with
    | some () => pure ()
    | none => stop "expected newline, `#`"

/-- Characters of a bare key. -/
def isBareKeyChar (c : Char) : Bool := c.isAlphanum || c = '_' || c = '-'

/-- Whether a character is a hexadecimal digit. -/
def isHexDigit (c : Char) : Bool := c.isDigit || ('a' ≤ c && c ≤ 'f') || ('A' ≤ c && c ≤ 'F')

/-- The value of hexadecimal digits. -/
def hexValue (cs : List Char) : Nat :=
  cs.foldl (fun n c => n * 16 + ((Hex.value? c.toNat.toUInt8).getD 0).toNat) 0

/-- Characters a basic string holds as they are. -/
def isBasicChar (c : Char) : Bool :=
  c = '\t' || (c.toNat ≥ 0x20 && c ≠ '"' && c ≠ '\\' && c.toNat ≠ 0x7F)

/-- Characters a literal string holds. -/
def isLiteralChar (c : Char) : Bool := c = '\t' || (c.toNat ≥ 0x20 && c ≠ '\'' && c.toNat ≠ 0x7F)

/-- Reads a unicode escape of n hexadecimal digits. -/
def unicodeEscape (n : Nat) (label : String) : Parse Char := do
  let ds ← peekN n
  if ds.length = n && ds.all isHexDigit then
    let v := hexValue ds
    if v < 0xD800 || (0xDFFF < v && v < 0x110000) then
      bumpN n
      pure (Char.ofNat v)
    else stop ("invalid " ++ label ++ "\nvalue is out of range")
  else stop ("invalid " ++ label)

/-- The message of an escape that is not one of the known ones. -/
def escapeMessage : String :=
  "invalid escape sequence\nexpected `b`, `f`, `n`, `r`, `t`, `u`, `U`, `\\`, `\"`"

/-- Reads an escape after its backslash. -/
def escape : Parse Char := do
  let start ← here
  let c ← peek
  bump
  match c with
  | some 'b' => pure '\x08'
  | some 'f' => pure '\x0c'
  | some 'n' => pure '\n'
  | some 'r' => pure '\r'
  | some 't' => pure '\t'
  | some '\\' => pure '\\'
  | some '"' => pure '"'
  | some 'u' => unicodeEscape 4 "unicode 4-digit hex code"
  | some 'U' => unicodeEscape 8 "unicode 8-digit hex code"
  -- the escape is read a byte at a time, so the fault stands one byte in
  | some _ => throw ⟨start + 1, escapeMessage, true⟩
  | none => stop escapeMessage

/-- Reads the characters of a basic string, after its opening quote. -/
def basicBody : Nat → List Char → Parse String
  | 0, _ => stop "invalid basic string"
  | fuel + 1, acc => do
    match ← peek with
    | some '"' => do bump; pure (String.ofList acc.reverse)
    | some '\\' => do
      bump
      let c ← escape
      basicBody fuel (c :: acc)
    | some c =>
      if isBasicChar c then do bump; basicBody fuel (c :: acc)
      else stop "invalid basic string"
    | none => stop "invalid basic string"

/-- Reads a literal string, after its opening quote. -/
def literalBody : Parse String := do
  let cs ← takeWhile isLiteralChar
  if (← peek) = some '\'' then do bump; pure (String.ofList cs)
  else stop "invalid literal string"

/-- Skips a line break right after the opening of a multi-line string. -/
def skipFirstBreak : Parse Unit := do let _ ← attempt newline

/-- Skips blanks and line breaks. -/
def blanksAndBreaks : Nat → Parse Unit
  | 0 => pure ()
  | fuel + 1 => do
    match ← peekN 2 with
    | ' ' :: _ | '\t' :: _ | '\n' :: _ => do bump; blanksAndBreaks fuel
    | ['\r', '\n'] => do bumpN 2; blanksAndBreaks fuel
    | _ => pure ()

/-- Reads a backslash that ends a line, with the blanks before the break and the blanks and
breaks after it; rejects when no break follows the blanks. -/
def escapedBreak (fuel : Nat) : Parse Unit := do
  bump
  ws
  newline
  blanksAndBreaks fuel

/-- Reads the body of a multi-line basic string, after its opening quotes. One or two quotes
stand for themselves, also right before the closing three. -/
def multiBasicBody : Nat → List Char → Parse String
  | 0, _ => stop "invalid multiline basic string"
  | fuel + 1, acc => do
    match ← peekN 5 with
    | '"' :: '"' :: '"' :: more =>
      let extra := (more.takeWhile (· = '"')).length
      bumpN (3 + extra)
      pure (String.ofList (acc.reverse ++ List.replicate extra '"'))
    | '\\' :: _ => do
      match ← attempt (escapedBreak fuel) with
      | some () => multiBasicBody fuel acc
      | none => do
        bump
        let c ← escape
        multiBasicBody fuel (c :: acc)
    | '\r' :: '\n' :: _ => do bumpN 2; multiBasicBody fuel ('\n' :: acc)
    | c :: _ =>
      if c = '\n' || c = '"' || isBasicChar c then do bump; multiBasicBody fuel (c :: acc)
      else stop "invalid multiline basic string"
    | [] => stop "invalid multiline basic string"

/-- Reads the body of a multi-line literal string, after its opening quotes. -/
def multiLiteralBody : Nat → List Char → Parse String
  | 0, _ => stop "invalid multiline literal string"
  | fuel + 1, acc => do
    match ← peekN 5 with
    | '\'' :: '\'' :: '\'' :: more =>
      let extra := (more.takeWhile (· = '\'')).length
      bumpN (3 + extra)
      pure (String.ofList (acc.reverse ++ List.replicate extra '\''))
    | '\r' :: '\n' :: _ => do bumpN 2; multiLiteralBody fuel ('\n' :: acc)
    | c :: _ =>
      if c = '\n' || c = '\'' || isLiteralChar c then do bump; multiLiteralBody fuel (c :: acc)
      else stop "invalid multiline literal string"
    | [] => stop "invalid multiline literal string"

/-- Reads a string in any of its forms. -/
def string (fuel : Nat) : Parse String := do
  match ← peekN 3 with
  | ['"', '"', '"'] => do bumpN 3; skipFirstBreak; multiBasicBody fuel []
  | '"' :: _ => do bump; basicBody fuel []
  | ['\'', '\'', '\''] => do bumpN 3; skipFirstBreak; multiLiteralBody fuel []
  | '\'' :: _ => do bump; literalBody
  | _ => reject "invalid string\nexpected `\"`, `'`"

/-- Reads one part of a key with its text and span; rejects when no key starts here. -/
def simpleKey (fuel : Nat) : Parse Key := do
  let before ← get
  let name ← match ← peek with
    | some '"' => do bump; basicBody fuel []
    | some '\'' => do bump; literalBody
    | _ =>
      let cs ← takeWhile isBareKeyChar
      if cs.isEmpty then reject "invalid key" else pure (String.ofList cs)
  let after ← get
  let text := String.ofList (before.rest.take (before.rest.length - after.rest.length))
  pure ⟨name, text, ⟨before.pos, after.pos⟩⟩

/-- How deep arrays and inline tables may nest, and how many parts a dotted key may have:
reading stops at this many. -/
def recursionLimit : Nat := 80

/-- Reads a dotted key; rejects when no key starts here, and rejects at its start a key of
too many parts. A dot that no key part follows is left unread. -/
def key (fuel : Nat) : Parse (List Key) := do
  let start ← get
  ws
  let first ← simpleKey fuel
  ws
  let rec more : Nat → List Key → Parse (List Key)
    | 0, acc => pure acc.reverse
    | n + 1, acc => do
      if (← peek) = some '.' then do
        let mark ← get
        bump
        match ← attempt (do ws; let k ← simpleKey fuel; ws; pure k) with
        | some k => more n (k :: acc)
        | none => do set mark; pure acc.reverse
      else pure acc.reverse
  let parts ← more fuel [first]
  if parts.length ≥ recursionLimit then do set start; reject "recursion limit exceeded"
  pure parts

/-- Digits of a number with single underscores between them, the first already checked; an
underscore without a digit after it stops reading with the given message. -/
def digitsFrom (isDigit : Char → Bool) (lone : String) : Nat → List Char → Parse (List Char)
  | 0, acc => pure acc.reverse
  | fuel + 1, acc => do
    match ← peekN 2 with
    | c :: _ =>
      if isDigit c then do bump; digitsFrom isDigit lone fuel (c :: acc)
      else if c = '_' then do
        bump
        match ← peek with
        | some d =>
          if isDigit d then digitsFrom isDigit lone fuel acc
          else stop lone
        | none => stop lone
      else pure acc.reverse
    | [] => pure acc.reverse

/-- A sign, if one is written. -/
def sign : Parse Bool := do
  match ← peek with
  | some '+' => do bump; pure false
  | some '-' => do bump; pure true
  | _ => pure false

/-- Reads a decimal integer's text: a sign and digits without a leading zero. -/
def decimal (fuel : Nat) : Parse (Bool × List Char) := do
  let negative ← sign
  match ← peek with
  | some '0' => do bump; pure (negative, ['0'])
  | some c =>
    if c.isDigit then do
      bump
      let ds ← digitsFrom Char.isDigit "invalid integer\nexpected digit" fuel [c]
      pure (negative, ds)
    else reject "invalid integer"
  | none => reject "invalid integer"

/-- The value of decimal digits. -/
def decimalValue (ds : List Char) : Nat := ds.foldl (fun n c => n * 10 + (c.toNat - 48)) 0

/-- Reads digits that may start with zero, for fractions and exponents, with the messages for
a missing first digit and for an underscore without a digit after it. -/
def plainDigits (fuel : Nat) (missing lone : String) : Parse (List Char) := do
  match ← peek with
  | some c =>
    if c.isDigit then do bump; digitsFrom Char.isDigit lone fuel [c]
    else stop missing
  | none => stop missing

/-- The message of a float that stopped reading. -/
def floatFault (expected : String) : String :=
  "invalid floating-point number" ++ (if expected.isEmpty then "" else "\nexpected " ++ expected)

/-- Reads a float: a decimal integer with a fraction, an exponent, or both; or inf or nan. -/
def float (fuel : Nat) : Parse Binary64 := do
  let start ← get
  match ← peekN 4 with
  | ['i', 'n', 'f', _] | ['i', 'n', 'f'] => do bumpN 3; pure (.infinite false)
  | ['+', 'i', 'n', 'f'] => do bumpN 4; pure (.infinite false)
  | ['-', 'i', 'n', 'f'] => do bumpN 4; pure (.infinite true)
  | ['n', 'a', 'n', _] | ['n', 'a', 'n'] | ['+', 'n', 'a', 'n'] | ['-', 'n', 'a', 'n'] => do
    bumpN (if (← peek) = some 'n' then 3 else 4)
    pure .nan
  | _ => do
    let (negative, whole) ← decimal fuel
    let frac ← do
      if (← peek) = some '.' then do
        bump
        -- the fraction names its digits, and so does the underscore rule inside it
        plainDigits fuel (floatFault "digit") (floatFault "digit, digit")
      else pure []
    let hasExp := (← peek) = some 'e' || (← peek) = some 'E'
    if frac.isEmpty && !hasExp then reject "invalid floating-point number"
    let exp ← do
      if hasExp then do
        bump
        let neg ← sign
        let ds ← plainDigits fuel (floatFault "") (floatFault "digit")
        pure (if neg then -(decimalValue ds : Int) else decimalValue ds)
      else pure 0
    let x := Binary64.ofDecimal negative (decimalValue (whole ++ frac)) (exp - frac.length)
    -- a written number too large for a finite float is refused; minus infinity is kept
    if x = .infinite false then do set start; stop "invalid floating-point number"
    pure x

/-- The largest signed 64-bit integer. -/
def maxInt : Int := 9223372036854775807

/-- Reads an integer in one of its four bases. -/
def integer (fuel : Nat) : Parse Int := do
  let start ← get
  let prefixed (radix : Nat) (isDigit : Char → Bool) (label : String) : Parse Int := do
    bumpN 2
    match ← peek with
    | some c =>
      if isDigit c then do
        bump
        let ds ← digitsFrom isDigit ("invalid " ++ label ++ "\nexpected digit") fuel [c]
        let v := ds.foldl (fun n d => n * radix + ((Hex.value? d.toNat.toUInt8).getD 0).toNat) 0
        if v ≤ maxInt.toNat then pure v
        else do set start; stop "number too large to fit in target type"
      else stop ("invalid " ++ label)
    | none => stop ("invalid " ++ label)
  match ← peekN 2 with
  | ['0', 'x'] => prefixed 16 isHexDigit "hexadecimal integer"
  | ['0', 'o'] => prefixed 8 (fun c => '0' ≤ c && c ≤ '7') "octal integer"
  | ['0', 'b'] => prefixed 2 (fun c => c = '0' || c = '1') "binary integer"
  | _ =>
    let (negative, ds) ← decimal fuel
    let v := decimalValue ds
    if negative then
      if v ≤ 9223372036854775808 then pure (-(v : Int))
      else do set start; stop "number too small to fit in target type"
    else if v ≤ maxInt.toNat then pure v
    else do set start; stop "number too large to fit in target type"

/-- Makes a rejection final, naming what was being read; a cause the rejection gives
follows on the next line. A final failure passes unchanged, so the innermost name stays. -/
def commitAs {α : Type} (label : String) (p : Parse α) : Parse α := fun c =>
  match p c with
  | .ok r => .ok r
  | .error f =>
    if f.final then .error f
    else .error { f with
      message := "invalid " ++ label ++ (if f.message.isEmpty then "" else "\n" ++ f.message),
      final := true }

/-- Makes every failure of a reader final, naming what was being read unless the failure
already names what it was reading. -/
def commitNamed {α : Type} (label : String) (p : Parse α) : Parse α := fun c =>
  match p c with
  | .ok r => .ok r
  | .error f =>
    if f.message.startsWith "invalid " then .error { f with final := true }
    else .error { f with
      message := "invalid " ++ label ++ (if f.message.isEmpty then "" else "\n" ++ f.message),
      final := true }

/-- Reads exactly n digits, or rejects. -/
def fixedDigits (n : Nat) : Parse (List Char) := do
  let ds ← peekN n
  if ds.length = n && ds.all Char.isDigit then do bumpN n; pure ds
  else reject

/-- Reads a field of two digits whose value lies between two bounds; a value outside them
rejects at the start of the field. -/
def boundedField (lo hi : Nat) : Parse (List Char) := do
  let start ← get
  let ds ← fixedDigits 2
  let v := decimalValue ds
  if lo ≤ v && v ≤ hi then pure ds
  else do set start; reject "value is out of range"

/-- Reads a character, or rejects. -/
def expectChar (c : Char) : Parse Unit := do
  if (← peek) = some c then bump else reject

/-- The days of a month of the Gregorian calendar. -/
def daysInMonth (year month : Nat) : Nat :=
  if month = 2 then
    if year % 4 = 0 && (year % 100 ≠ 0 || year % 400 = 0) then 29 else 28
  else if month = 4 || month = 6 || month = 9 || month = 11 then 30
  else 31

/-- Reads a date: four digits of year, then, past the first dash, a month and a day that
must exist. -/
def fullDate : Parse (List Char) := do
  let y ← fixedDigits 4
  expectChar '-'
  commitAs "date-time" do
    let mo ← boundedField 1 12
    expectChar '-'
    let dayStart ← get
    let d ← boundedField 1 31
    if decimalValue d > daysInMonth (decimalValue y) (decimalValue mo) then do
      set dayStart
      reject "value is out of range"
    pure (y ++ ['-'] ++ mo ++ ['-'] ++ d)

/-- Reads an optional fraction of a second: a point and at least one digit. -/
def secondFraction : Parse (List Char) := do
  match ← peekN 2 with
  | ['.', d] =>
    if d.isDigit then do
      bump
      let ds ← takeWhile Char.isDigit
      pure ('.' :: ds)
    else pure []
  | _ => pure []

/-- Reads a time of day: hours, minutes, seconds up to 60, and an optional fraction. Past the
colon after the hours a failure is final, named by the label. -/
def partialTime (label : String) : Parse (List Char) := do
  let h ← boundedField 0 23
  expectChar ':'
  commitAs label do
    let m ← boundedField 0 59
    expectChar ':'
    let s ← boundedField 0 60
    let frac ← secondFraction
    pure (h ++ [':'] ++ m ++ [':'] ++ s ++ frac)

/-- Reads an optional offset: Z, or a sign with hours and minutes. -/
def timeOffset : Parse (List Char) := do
  match ← peek with
  | some c =>
    if c = 'Z' || c = 'z' then do bump; pure [c]
    else if c = '+' || c = '-' then do
      bump
      commitAs "time offset" do
        let h ← boundedField 0 23
        expectChar ':'
        let m ← boundedField 0 59
        pure (c :: h ++ [':'] ++ m)
    else pure []
  | none => pure []

/-- Reads a date with an optional time and offset, or a time alone; gives its text. A time
after a date needs T, t or a blank before it and two digits of hours with a colon; without
them the date stands alone. -/
def datetime : Parse String := do
  match ← attempt fullDate with
  | some date =>
    let time ← attempt do
      let sep ← peek
      match sep with
      | some s =>
        if s = 'T' || s = 't' || s = ' ' then do
          bump
          let t ← partialTime "date-time"
          let z ← timeOffset
          pure (s :: t ++ z)
        else reject
      | none => reject
    pure (String.ofList (date ++ time.getD []))
  | none => do return String.ofList (← partialTime "time")

/-- Tries readers in turn, each from the same place, while they reject. -/
def firstOf {α : Type} : List (Parse α) → Parse α
  | [] => reject
  | [p] => p
  | p :: ps => do
    match ← attempt p with
    | some a => pure a
    | none => firstOf ps

/-- The complaint about a dotted key that runs into a value that is not a table. -/
def extendMessage (path : List String) (kind : String) : String :=
  "dotted key `" ++ ".".intercalate path ++ "` attempted to extend non-table type (" ++ kind ++
    ")"

/-- Splits a path into the keys before its last one and the last one. -/
def splitLast {α : Type} (path : List α) : Option (List α × α) :=
  match path.getLast? with
  | some k => some (path.dropLast, k)
  | none => none

/-- Places a pair of an inline table at the end of a dotted path, in the table reached so far
(dotted when a dotted key made it), making tables where the path's keys are missing. The
path may pass only through tables dotted keys made. The table the pair lands in must have
been made by a dotted key exactly when the pair's key is dotted, and must not hold the key
yet. -/
def placeInline (whole : List Key) (k : Key) (v : Value) (span : Span) :
    List String → Bool → List Key → List (String × Value × Place) →
      Except String (List (String × Value × Place))
  | _, dotted, [], entries =>
    if dotted = whole.isEmpty || entries.any (·.1 = k.name) then
      .error ("duplicate key `" ++ k.name ++ "`")
    else .ok (entries ++ [(k.name, v, ⟨k.span, some span⟩)])
  | done, _, p :: rest, entries =>
    let done := done ++ [p.name]
    match entries.find? (·.1 = p.name) with
    | none => do
      let sub ← placeInline whole k v span done true rest []
      pure (entries ++ [(p.name, .table sub, ⟨p.span, none⟩)])
    | some (_, .table sub, place) =>
      -- a table written out in full may not be extended by a dotted key
      if place.value.isSome then .error ("duplicate key `" ++ p.name ++ "`")
      else do
        let sub' ← placeInline whole k v span done true rest sub
        pure (entries.map fun e => if e.1 = p.name then (e.1, .table sub', e.2.2) else e)
    | some (_, other, _) => .error (extendMessage done other.typeName)

/-- Builds an inline table from its pairs, in order. -/
def buildInline (pairs : List (List Key × Value × Span)) :
    Except String (List (String × Value × Place)) :=
  pairs.foldlM (fun acc (path, v, span) =>
    match splitLast path with
    | some (front, k) => placeInline front k v span [] false front acc
    | none => .ok acc) []

mutual

/-- Reads a value inside the given number of arrays and inline tables. -/
def value (fuel depth : Nat) : Parse Value := do
  match fuel with
  | 0 => stop "invalid value"
  | fuel + 1 =>
    match ← peek with
    | none => reject
    | some '"' | some '\'' => do return .string (← string fuel)
    | some '[' => array fuel depth
    | some '{' => inlineTable fuel depth
    | some 't' =>
      if (← peekN 4) = ['t', 'r', 'u', 'e'] then do bumpN 4; pure (.boolean true)
      else stop "invalid string\nexpected `\"`, `'`"
    | some 'f' =>
      if (← peekN 5) = ['f', 'a', 'l', 's', 'e'] then do bumpN 5; pure (.boolean false)
      else stop "invalid string\nexpected `\"`, `'`"
    | some 'i' | some 'n' =>
      if (← peekN 3) = ['i', 'n', 'f'] || (← peekN 3) = ['n', 'a', 'n'] then do
        return .float (← float fuel)
      else reject "invalid string\nexpected `\"`, `'`"
    | some '.' => reject (floatFault "leading digit")
    | some c =>
      if c.isDigit || c = '+' || c = '-' then
        firstOf [(do return .datetime (← datetime)), (do return .float (← float fuel)),
          (do return .integer (← integer fuel))]
      else if c = '_' then reject "invalid integer\nexpected leading digit"
      else reject "invalid string\nexpected `\"`, `'`"
termination_by (fuel, 0, 0)

/-- Reads the items of an array after its opening bracket, up to its closing one. -/
def arrayItems (fuel depth : Nat) : Nat → List Value → Parse Value
  | 0, _ => stop "invalid array\nexpected `]`"
  | n + 1, acc => do
    blankLines fuel
    if (← peek) = some ']' then do bump; return .array acc.reverse
    match ← attempt (value fuel (depth + 1)) with
    | none => stop "invalid array\nexpected `]`"
    | some v =>
      blankLines fuel
      match ← peek with
      | some ',' => do bump; arrayItems fuel depth n (v :: acc)
      | some ']' => do bump; return .array (v :: acc).reverse
      | _ => stop "invalid array\nexpected `]`"
termination_by n _ => (fuel, 2, n)

/-- Reads an array, at its opening bracket; one nested too deep stops reading there. -/
def array (fuel depth : Nat) : Parse Value := do
  if depth + 1 ≥ recursionLimit then stop "recursion limit exceeded"
  bump
  arrayItems fuel depth fuel []
termination_by (fuel, 3, 0)

/-- Reads a pair of an inline table with the blanks around its value; rejects when no key
starts here. -/
def inlinePair (fuel depth : Nat) : Parse (List Key × Value × Span) := do
  let path ← key fuel
  if (← peek) ≠ some '=' then stop "expected `.`, `=`"
  bump
  ws
  let first ← here
  let v ← commit (value fuel depth)
  let last ← here
  ws
  pure (path, v, ⟨first, last⟩)
termination_by (fuel, 1, 0)

/-- Reads the pairs of an inline table after its first, each after a comma; a comma that no
pair follows is left unread. -/
def inlinePairs (fuel depth : Nat) :
    Nat → List (List Key × Value × Span) → Parse (List (List Key × Value × Span))
  | 0, acc => pure acc.reverse
  | n + 1, acc => do
    if (← peek) = some ',' then do
      let mark ← get
      bump
      match ← attempt (inlinePair fuel depth) with
      | some p => inlinePairs fuel depth n (p :: acc)
      | none => do set mark; pure acc.reverse
    else pure acc.reverse
termination_by n _ => (fuel, 2, n)

/-- Reads an inline table, at its opening brace; one nested too deep stops reading there.
Its pairs are read first and placed after; a comma that no pair follows is left for the
closing brace to refuse. -/
def inlineTable (fuel depth : Nat) : Parse Value := do
  if depth + 1 ≥ recursionLimit then stop "recursion limit exceeded"
  bump
  let opening ← get
  let read ← match ← attempt (inlinePair fuel (depth + 1)) with
    | some p => inlinePairs fuel (depth + 1) fuel [p]
    | none => pure []
  ws
  match buildInline read with
  | .error m => do set opening; stop m
  | .ok entries =>
    if (← peek) = some '\x7d' then do bump; pure (.table entries)
    else stop "invalid inline table\nexpected `\x7d`"
termination_by (fuel, 3, 0)

end

end Parse
end ChangeLog.Toml
