import ChangeLog.Bytes.Hex
/-
  Request targets: a path and an optional query after the first question mark, with any
  fragment after a number sign left out, in origin form, after a scheme and an authority,
  or an authority alone. A path may hold the unreserved and sub-delimiter characters,
  percent escapes, double quotes and braces, which some clients send as they are, and any
  character past ASCII; a query may hold every visible character but double quotes, angle
  brackets and the number sign, and any character past ASCII. Percent escapes are decoded
  into bytes.
-/

namespace ChangeLog.Http

/-- The path and query of a request. -/
structure Target where
  path : String
  query : Option String
  deriving Repr

/-- Characters a path may hold as they are: the unreserved and sub-delimiter characters,
double quotes and braces, and every character past ASCII. -/
def isPathChar (c : Char) : Bool :=
  let n := c.toNat
  n = 0x21 || (0x24 ≤ n && n ≤ 0x3B) || n = 0x3D || (0x40 ≤ n && n ≤ 0x5F) ||
    (0x61 ≤ n && n ≤ 0x7A) || n = 0x7C || n = 0x7E || c = '"' || c = '{' || c = '}' ||
    0x7F ≤ n

/-- Characters a query may hold as they are: every visible ASCII character but double quotes,
angle brackets and the number sign, and every character past ASCII. -/
def isQueryChar (c : Char) : Bool :=
  let n := c.toNat
  n = 0x21 || (0x24 ≤ n && n ≤ 0x3B) || n = 0x3D || (0x3F ≤ n && n ≤ 0x7E) || 0x7F ≤ n

/-- Splits and checks the path and query that follow the authority, or make up a target
that starts with a slash. A fragment after a number sign is dropped unchecked; an empty
path is the root. -/
def splitOrigin (cs : List Char) : Except String Target :=
  let path := cs.takeWhile fun c => c != '?' && c != '#'
  let rest := cs.drop path.length
  let shown := if path.isEmpty then "/" else String.ofList path
  if !path.all isPathChar then .error "invalid uri character"
  else
    match rest with
    | '?' :: q =>
      let query := q.takeWhile (· != '#')
      if query.all isQueryChar then .ok ⟨shown, some (String.ofList query)⟩
      else .error "invalid uri character"
    | _ => .ok ⟨shown, none⟩

/-- Characters an authority may hold without a rule of their own. -/
def isAuthorityChar (c : Char) : Bool :=
  ('a' ≤ c && c ≤ 'z') || ('A' ≤ c && c ≤ 'Z') || ('0' ≤ c && c ≤ '9') ||
    "!$&'()*+,-.;=_~".toList.contains c

/-- What a scan of an authority has seen. -/
structure AuthorityScan where
  /-- Colons since the start or the last at sign or closing bracket. -/
  colons : Nat := 0
  openBracket : Bool := false
  closeBracket : Bool := false
  /-- A percent sign since the start or the last at sign or closing bracket. -/
  percent : Bool := false
  /-- Where the last at sign stands. -/
  atSign : Option Nat := none

/-- Scans an authority up to the slash, question mark or number sign that ends it; gives
where it ends. At most eight colons, one opening bracket before any percent sign, and a
closing bracket only after an opening one are allowed. -/
def scanAuthority : List Char → Nat → AuthorityScan → Except String (Nat × AuthorityScan)
  | [], i, st => .ok (i, st)
  | c :: rest, i, st =>
    if c = '/' || c = '?' || c = '#' then .ok (i, st)
    else if c = ':' then
      if st.colons ≥ 8 then .error "invalid authority"
      else scanAuthority rest (i + 1) { st with colons := st.colons + 1 }
    else if c = '[' then
      if st.percent || st.openBracket then .error "invalid authority"
      else scanAuthority rest (i + 1) { st with openBracket := true }
    else if c = ']' then
      if !st.openBracket || st.closeBracket then .error "invalid authority"
      else scanAuthority rest (i + 1) { st with closeBracket := true, colons := 0, percent := false }
    else if c = '@' then
      scanAuthority rest (i + 1) { st with atSign := some i, colons := 0, percent := false }
    else if c = '%' then scanAuthority rest (i + 1) { st with percent := true }
    else if isAuthorityChar c then scanAuthority rest (i + 1) st
    else .error "invalid uri character"

/-- Where the authority at the start of a text ends. Brackets must pair, a port takes one
colon, an at sign needs a host after it, and a percent sign may stand only in the user
part. -/
def authorityEnd (cs : List Char) : Except String Nat := do
  let (stop, st) ← scanAuthority cs 0 {}
  if st.openBracket != st.closeBracket then throw "invalid authority"
  if st.colons > 1 then throw "invalid authority"
  if stop > 0 && st.atSign = some (stop - 1) then throw "invalid authority"
  if st.percent then throw "invalid authority"
  pure stop

/-- Characters a scheme may hold. -/
def isSchemeChar (c : Char) : Bool :=
  ('a' ≤ c && c ≤ 'z') || ('A' ≤ c && c ≤ 'Z') || ('0' ≤ c && c ≤ '9') || c = '+' ||
    c = '-' || c = '.'

/-- The length of the scheme with its "://" at the start of a target of the given byte size,
if one is there: http and https in any case, or scheme characters up to the first colon
when "//" follows it. A scheme longer than 64 characters is refused. -/
def schemeLength (cs : List Char) (size : Nat) : Except String (Option Nat) :=
  let lower (n : Nat) := String.ofList ((cs.take n).map Char.toLower)
  if size ≥ 7 && lower 7 = "http://" then .ok (some 7)
  else if size ≥ 8 && lower 8 = "https://" then .ok (some 8)
  else if size ≤ 3 then .ok none
  else
    let name := cs.takeWhile isSchemeChar
    let i := name.length
    match cs.drop i with
    | ':' :: '/' :: '/' :: _ => if i > 64 then .error "scheme too long" else .ok (some (i + 3))
    | _ => .ok none

/-- Reads a request target: a path with an optional query; a lone asterisk; an authority
alone, which has an empty path; or a scheme and an authority followed by a path, which may
be empty. -/
def Target.parse (uri : String) : Except String Target :=
  let cs := uri.toList
  let size := uri.utf8ByteSize
  if size > 65534 then .error "uri too long"
  else if size = 0 then .error "empty string"
  else if uri = "/" then .ok ⟨"/", none⟩
  else if uri = "*" then .ok ⟨"*", none⟩
  else if size = 1 then do
    let stop ← authorityEnd cs
    if stop ≠ 1 then throw "invalid uri character"
    pure ⟨"", none⟩
  else if cs.head? = some '/' then splitOrigin cs
  else do
    let scheme ← schemeLength cs size
    let rest := cs.drop (scheme.getD 0)
    let stop ← authorityEnd rest
    match scheme with
    | none => if stop ≠ rest.length then throw "invalid format" else pure ⟨"", none⟩
    | some _ => if stop = 0 then throw "invalid format" else splitOrigin (rest.drop stop)

/-- Decodes percent escapes into bytes; other characters stay as their UTF-8 bytes. -/
def percentBytes : List Char → List UInt8
  | '%' :: a :: b :: rest =>
    match Hex.value? a.toNat.toUInt8, Hex.value? b.toNat.toUInt8 with
    | some x, some y =>
      if a.toNat < 128 && b.toNat < 128 then (x * 16 + y) :: percentBytes rest
      else '%'.toString.toUTF8.toList ++ percentBytes (a :: b :: rest)
    | _, _ => '%'.toString.toUTF8.toList ++ percentBytes (a :: b :: rest)
  | c :: rest => c.toString.toUTF8.toList ++ percentBytes rest
  | [] => []

/-- Decodes percent escapes, when the bytes form UTF-8. -/
def percentDecode? (s : String) : Option String :=
  String.fromUTF8? (ByteArray.mk (percentBytes s.toList).toArray)

/-- Whether a byte continues a UTF-8 sequence. -/
def isContinuation (b : UInt8) : Bool := 0x80 ≤ b && b ≤ 0xBF

/-- The length of the UTF-8 sequence a byte starts, with the range its second byte must fall
in; none for a byte that starts no sequence. -/
def leadRange (b : UInt8) : Option (Nat × UInt8 × UInt8) :=
  if 0xC2 ≤ b && b ≤ 0xDF then some (2, 0x80, 0xBF)
  else if b = 0xE0 then some (3, 0xA0, 0xBF)
  else if 0xE1 ≤ b && b ≤ 0xEC then some (3, 0x80, 0xBF)
  else if b = 0xED then some (3, 0x80, 0x9F)
  else if 0xEE ≤ b && b ≤ 0xEF then some (3, 0x80, 0xBF)
  else if b = 0xF0 then some (4, 0x90, 0xBF)
  else if 0xF1 ≤ b && b ≤ 0xF3 then some (4, 0x80, 0xBF)
  else if b = 0xF4 then some (4, 0x80, 0x8F)
  else none

/-- How many bytes after a lead byte belong to its sequence as far as they are well formed:
the second in its range, the others continuation bytes, at most len - 1 of them. -/
def wellFormedTail (len : Nat) (lo hi : UInt8) : List UInt8 → Nat
  | b :: more =>
    if lo ≤ b && b ≤ hi then 1 + ((more.take (len - 2)).takeWhile isContinuation).length else 0
  | [] => 0

/-- The code point of a well-formed sequence of len bytes. -/
def codePoint (len : Nat) (lead : UInt8) (tail : List UInt8) : Nat :=
  let high := if len = 2 then lead.toNat % 32 else if len = 3 then lead.toNat % 16 else lead.toNat % 8
  tail.foldl (fun n b => n * 64 + b.toNat % 64) high

/-- Decodes UTF-8, putting one replacement character in place of each longest piece that
starts a sequence but does not complete it, and of each byte that starts none. -/
def decodeLossy : Nat → List UInt8 → List Char
  | 0, _ => []
  | _, [] => []
  | fuel + 1, b :: rest =>
    if b < 0x80 then Char.ofNat b.toNat :: decodeLossy fuel rest
    else
      match leadRange b with
      | none => '\uFFFD' :: decodeLossy fuel rest
      | some (len, lo, hi) =>
        let n := wellFormedTail len lo hi rest
        if n + 1 = len then Char.ofNat (codePoint len b (rest.take n)) :: decodeLossy fuel (rest.drop n)
        else '\uFFFD' :: decodeLossy fuel (rest.drop n)

/-- Decodes percent escapes, replacing bytes that do not form UTF-8. -/
def percentDecodeLossy (s : String) : String :=
  let bs := percentBytes s.toList
  String.ofList (decodeLossy bs.length bs)

end ChangeLog.Http
