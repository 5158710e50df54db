import PartCache.Bytes
import PartCache.Number.Decimal
import PartCache.Idna.Domain

/-!
# HTTP URLs as the URL Standard reads them

The upstream is asked for objects by URL, and a URL that failed is quoted in the
error in its normal form.  This module reads an `http:` URL the way the URL
Standard does and writes it back:

* surrounding controls and spaces are dropped, and tabs and line breaks removed;
* any run of `/` and `\` after the scheme is skipped;
* the authority runs to the first `/`, `\`, `?` or `#`; a user name and password
  come before its last `@`, a port after the host's `:`, and port 80 is dropped;
* a host name is brought to its ASCII form (mapped, normalized, and its labels
  outside ASCII written in Punycode) and must not hold a character forbidden in
  domains; a host whose last label is a number is an IPv4 address, read part by part in
  decimal, octal or hexadecimal and written in dotted decimal; a host in brackets
  is an IPv6 address, written in lowercase hexadecimal with its longest run of
  zero pieces as `::`;
* the path is split at `/` and `\`; `.` segments are dropped and `..` removes the
  segment before it;
* the query runs to `#`, and the fragment is the rest.

Characters of each part that the part may not hold as they are, and every
character outside ASCII, are written as `%XX` escapes of their UTF-8 bytes.
-/

namespace PartCache.Http

set_option autoImplicit false

/-! ## Percent-encoding -/

/-- Control characters: the C0 controls and DEL. -/
def inControls (c : Char) : Bool := c.toNat < 0x20 || c.toNat == 0x7F

/-- What a fragment escapes. -/
def inFragmentSet (c : Char) : Bool :=
  inControls c || c == ' ' || c == '"' || c == '<' || c == '>' || c == '\x60'

/-- What a path segment escapes. -/
def inPathSet (c : Char) : Bool :=
  inFragmentSet c || c == '#' || c == '?' || c == '\x7b' || c == '\x7d'

/-- What the query of an `http:` URL escapes. -/
def inQuerySet (c : Char) : Bool :=
  inControls c || c == ' ' || c == '"' || c == '#' || c == '<' || c == '>' || c == '\''

/-- What a user name or password escapes. -/
def inUserinfoSet (c : Char) : Bool :=
  inPathSet c || c == '/' || c == ':' || c == ';' || c == '=' || c == '@' || c == '[' ||
    c == '\\' || c == ']' || c == '^' || c == '|'

/-- An uppercase hexadecimal digit. -/
def hexDigit (n : Nat) : Char := if n < 10 then Char.ofNat (48 + n) else Char.ofNat (55 + n)

/-- A byte as a `%XX` escape. -/
def escapeByte (b : UInt8) : String :=
  String.ofList ['%', hexDigit (b.toNat / 16), hexDigit (b.toNat % 16)]

/-- A character as a URL part holds it: itself when it is ASCII and not in the part's set,
otherwise the escapes of its UTF-8 bytes. -/
def escapeChar (set : Char → Bool) (c : Char) : String :=
  if c.toNat < 0x80 && !set c then String.singleton c
  else String.join ((String.singleton c).toUTF8.toList.map escapeByte)

/-- Characters as a URL part holds them. -/
def escapeAll (set : Char → Bool) (cs : List Char) : String :=
  String.join (cs.map (escapeChar set))

/-! ## URLs -/

/-- An `http:` URL in its parts. -/
structure Url where
  username : String := ""
  password : String := ""
  host : String
  /-- The port, unless it is the default, 80. -/
  port : Option Nat := none
  path : List String
  query : Option String := none
  fragment : Option String := none
  deriving Inhabited, Repr

namespace Url

/-- The path as written: each segment after a slash. -/
def pathText (u : Url) : String := String.join (u.path.map ("/" ++ ·))

/-- What a request asks the server for: the path and the query. -/
def target (u : Url) : String :=
  u.pathText ++ match u.query with
    | some q => "?" ++ q
    | none => ""

/-- The URL written out in normal form. -/
def text (u : Url) : String :=
  let credentials :=
    if u.username.isEmpty && u.password.isEmpty then ""
    else u.username ++ (if u.password.isEmpty then "" else ":" ++ u.password) ++ "@"
  let port := match u.port with
    | some p => ":" ++ Decimal.text p
    | none => ""
  let fragment := match u.fragment with
    | some f => "#" ++ f
    | none => ""
  "http://" ++ credentials ++ u.host ++ port ++ u.target ++ fragment

/-! ## Reading -/

/-- The input without surrounding controls and spaces, and without tabs and line breaks. -/
def cleaned (s : String) : List Char :=
  let edge := fun (c : Char) => c.toNat ≤ 0x20
  let cs := ((s.toList.dropWhile edge).reverse.dropWhile edge).reverse
  cs.filter fun c => c != '\t' && c != '\n' && c != '\r'

/-- Characters a domain may not hold. -/
def forbiddenInDomain (c : Char) : Bool :=
  inControls c || c == ' ' || c == '#' || c == '/' || c == ':' || c == '<' || c == '>' ||
    c == '?' || c == '@' || c == '[' || c == '\\' || c == ']' || c == '^' || c == '|' || c == '%'

/-- Whether a host's last label is a number, decimal or `0x` hexadecimal. -/
def endsInNumber (host : String) : Bool :=
  let labels := host.splitOn "."
  let labels := if labels.length > 1 && labels.getLast? == some "" then labels.dropLast else labels
  match labels.getLast? with
  | none => false
  | some last =>
    let cs := last.toList
    (!cs.isEmpty && cs.all Char.isDigit) ||
      (match cs with
        | '0' :: x :: rest => (x == 'x' || x == 'X') && rest.all (fun c => c.isDigit ||
            ('a' ≤ c && c ≤ 'f') || ('A' ≤ c && c ≤ 'F'))
        | _ => false)

/-- The bytes of a text with its `%XX` escapes decoded. -/
def percentDecoded (cs : List Char) : List UInt8 :=
  let hex := fun (c : Char) =>
    if '0' ≤ c && c ≤ '9' then some (c.toNat - 48)
    else if 'a' ≤ c && c ≤ 'f' then some (c.toNat - 87)
    else if 'A' ≤ c && c ≤ 'F' then some (c.toNat - 55)
    else none
  let rec go : List Char → List UInt8
    | '%' :: a :: b :: rest =>
      match hex a, hex b with
      | some x, some y => (x * 16 + y).toUInt8 :: go rest
      | _, _ => '%'.toNat.toUInt8 :: go (a :: b :: rest)
    | c :: rest => (String.singleton c).toUTF8.toList ++ go rest
    | [] => []
  go cs

/-- The value of a digit in any radix up to sixteen. -/
def digitValue (c : Char) : Option Nat :=
  if '0' ≤ c && c ≤ '9' then some (c.toNat - 48)
  else if 'a' ≤ c && c ≤ 'f' then some (c.toNat - 87)
  else if 'A' ≤ c && c ≤ 'F' then some (c.toNat - 55)
  else none

/-- A part of an IPv4 address: `0x` hexadecimal, octal after a leading `0`, or decimal; a
part that is only its prefix is zero. -/
def ipv4Part (part : String) : Option Nat :=
  let cs := part.toList
  if cs.isEmpty then none
  else
    let (radix, digits) : Nat × List Char := match cs with
      | '0' :: x :: rest => if x == 'x' || x == 'X' then (16, rest) else (8, x :: rest)
      | _ => (10, cs)
    digits.foldlM (fun n c => (digitValue c).bind fun d =>
      if d < radix then some (n * radix + d) else none) 0

/-- Reads a host that ends in a number as an IPv4 address of at most four parts, the last
filling the bytes the others leave, and writes it in dotted decimal. -/
def readIpv4 (host : String) : Option String := do
  let parts := host.splitOn "."
  let parts := if parts.getLast? == some "" then parts.dropLast else parts
  if parts.isEmpty || parts.length > 4 then none
  let numbers ← parts.mapM ipv4Part
  let leading := numbers.dropLast
  let last := numbers.getLastD 0
  if leading.any (· > 255) || last ≥ Nat.pow 256 (4 - leading.length) then none
  let value := (leading.zipIdx.foldl fun acc (n, i) => acc + n * Nat.pow 256 (3 - i)) last
  pure (".".intercalate ([3, 2, 1, 0].map fun k => Decimal.text (value / Nat.pow 256 k % 256)))

/-- Reads up to `k` hexadecimal digits onto `v`: the value, how many digits were read, and
the rest. -/
def hexPiece : Nat → Nat → List Char → Nat × Nat × List Char
  | 0, v, cs => (v, 0, cs)
  | _ + 1, v, [] => (v, 0, [])
  | k + 1, v, c :: rest =>
    match digitValue c with
    | some d =>
      let (v', n, r) := hexPiece k (v * 16 + d) rest
      (v', n + 1, r)
    | none => (v, 0, c :: rest)

/-- A decimal byte of an IPv4 address inside an IPv6 one: digits without a leading zero,
at most 255. -/
def embeddedByte (part : String) : Option Nat :=
  let cs := part.toList
  if cs.isEmpty || !cs.all Char.isDigit || (cs.length > 1 && cs.head? == some '0') then none
  else
    let n := cs.foldl (fun n c => n * 10 + (c.toNat - 48)) 0
    if n > 255 then none else some n

/-- The last two pieces of an IPv6 address written as an IPv4 address: exactly four
decimal bytes. -/
def embeddedIpv4 (cs : List Char) : Option (List Nat) := do
  match (String.ofList cs).splitOn "." with
  | [a, b, c, d] =>
    let (a, b, c, d) := (← embeddedByte a, ← embeddedByte b, ← embeddedByte c, ← embeddedByte d)
    pure [a * 256 + b, c * 256 + d]
  | _ => none

/-- Reads the pieces of an IPv6 address after its start: `pieces` holds those read, a zero
standing for each `::`, and `compress` the number of pieces before the `::`, if one was
read. Each step reads a `::`, or a piece of at most four hexadecimal digits and the colon
after it; an IPv4 address may stand for the last two pieces. -/
def ipv6Pieces : Nat → List Char → List Nat → Option Nat → Option (List Nat × Option Nat)
  | 0, _, _, _ => none
  | _ + 1, [], pieces, compress => some (pieces, compress)
  | fuel + 1, c :: rest, pieces, compress =>
    if pieces.length == 8 then none
    else if c == ':' then
      if compress.isSome then none
      else ipv6Pieces fuel rest (pieces ++ [0]) (some (pieces.length + 1))
    else
      let (value, n, after) := hexPiece 4 0 (c :: rest)
      match after with
      | [] => some (pieces ++ [value], compress)
      | '.' :: _ =>
        if n == 0 || pieces.length > 6 then none
        else (embeddedIpv4 (c :: rest)).map fun last => (pieces ++ last, compress)
      | ':' :: more =>
        if more.isEmpty then none else ipv6Pieces fuel more (pieces ++ [value]) compress
      | _ => none

/-- Reads an IPv6 address, the text between its brackets, into its eight pieces: a `::`
stands for as many zero pieces as make eight, and without one there must be eight. -/
def ipv6Address (cs : List Char) : Option (List Nat) := do
  let (start, pieces, compress) ← match cs with
    | ':' :: ':' :: rest => some (rest, [0], some 1)
    | ':' :: _ => none
    | _ => if cs.length < 2 then none else some (cs, [], none)
  let (pieces, compress) ← ipv6Pieces (start.length + 1) start pieces compress
  match compress with
  | some k => pure (pieces.take k ++ List.replicate (8 - pieces.length) 0 ++ pieces.drop k)
  | none => if pieces.length == 8 then pure pieces else none

/-- Where the longest run of at least two zero pieces starts and how long it is, the first
of equal runs. -/
def longestZeroRun (pieces : List Nat) : Option (Nat × Nat) :=
  let runs := (List.range pieces.length).filterMap fun i =>
    if pieces[i]? == some 0 && (i == 0 || pieces[i - 1]? != some 0) then
      some (i, ((pieces.drop i).takeWhile (· == 0)).length)
    else none
  match runs.foldl (fun best r => if r.2 > best.2 then r else best) (0, 0) with
  | (i, len) => if len ≥ 2 then some (i, len) else none

/-- An IPv6 address in normal form: lowercase hexadecimal pieces without leading zeros, the
longest run of two or more zero pieces written `::`. -/
def ipv6Text (pieces : List Nat) : String :=
  let hex := fun (n : Nat) => String.ofList ((Nat.toDigits 16 n).map Char.toLower)
  let join := fun (ps : List Nat) => ":".intercalate (ps.map hex)
  match longestZeroRun pieces with
  | some (i, len) => join (pieces.take i) ++ "::" ++ join (pieces.drop (i + len))
  | none => join pieces

/-- A host: an IPv6 address in brackets, or a name whose escapes are decoded (malformed
UTF-8 becoming U+FFFD), brought to its ASCII form, and holding no forbidden character; a
name that ends in a number must be an IPv4 address. Addresses are written in their normal
form. -/
def readHost (cs : List Char) : Option String :=
  if cs.isEmpty then none
  else if cs.head? == some '[' then
    if cs.getLast? == some ']' then
      (ipv6Address (cs.drop 1).dropLast).map fun pieces => "[" ++ ipv6Text pieces ++ "]"
    else none
  else
    match Idna.domainToAscii (Bytes.toStringLossy (percentDecoded cs)) with
    | none => none
    | some name =>
      if name.toList.any forbiddenInDomain then none
      else if endsInNumber name then readIpv4 name
      else some name

/-- A port: digits, at most 65535; empty or 80 means the default. -/
def readPort (cs : List Char) : Option (Option Nat) :=
  if cs.isEmpty then some none
  else if !cs.all Char.isDigit then none
  else
    let n := cs.foldl (fun n c => n * 10 + (c.toNat - 48)) 0
    if n > 65535 then none else if n == 80 then some none else some (some n)

/-- Whether a path segment is `.`, possibly escaped. -/
def isSingleDot (b : String) : Bool := b == "." || b.map Char.toLower == "%2e"

/-- Whether a path segment is `..`, possibly escaped. -/
def isDoubleDot (b : String) : Bool :=
  let l := b.map Char.toLower
  l == ".." || l == ".%2e" || l == "%2e." || l == "%2e%2e"

/-- Closes a path segment: `..` removes the last segment, `.` is dropped, and both leave an
empty last segment unless a slash follows. -/
def endSegment (path : List String) (buffer : String) (slash : Bool) : List String :=
  if isDoubleDot buffer then
    if slash then path.dropLast else path.dropLast ++ [""]
  else if isSingleDot buffer then
    if slash then path else path ++ [""]
  else path ++ [buffer]

/-- Reads path segments up to a `?`, a `#` or the end, giving the path and what follows. -/
def readPath : List Char → String → List String → List String × List Char
  | [], buffer, path => (endSegment path buffer false, [])
  | c :: rest, buffer, path =>
    if c == '/' || c == '\\' then readPath rest "" (endSegment path buffer true)
    else if c == '?' || c == '#' then (endSegment path buffer false, c :: rest)
    else readPath rest (buffer ++ escapeChar inPathSet c) path

/-- Splits the authority into credentials and host with port, at its last `@`. -/
def splitCredentials (auth : List Char) : Option (List Char) × List Char :=
  match (auth.reverse.findIdx? (· == '@')) with
  | none => (none, auth)
  | some k =>
    let i := auth.length - 1 - k
    (some (auth.take i), auth.drop (i + 1))

/-- The host of an authority's host and port: up to a colon outside brackets. -/
def hostPart : List Char → Bool → List Char
  | [], _ => []
  | c :: rest, inside =>
    if c == ':' && !inside then []
    else c :: hostPart rest (if c == '[' then true else if c == ']' then false else inside)

/-- Reads an `http:` URL; `none` when it is not one. -/
def parse (input : String) : Option Url := do
  let cs := cleaned input
  let schemeLength := (cs.takeWhile (· != ':')).length
  let scheme := String.ofList ((cs.take schemeLength).map Char.toLower)
  if scheme != "http" || cs.length == schemeLength then none
  let rest := (cs.drop (schemeLength + 1)).dropWhile (fun c => c == '/' || c == '\\')
  let auth := rest.takeWhile (fun c => c != '/' && c != '\\' && c != '?' && c != '#')
  let after := rest.drop auth.length
  let (credentials, hostPort) := splitCredentials auth
  let (username, password) := match credentials with
    | none => ("", "")
    | some ui =>
      let name := ui.takeWhile (· != ':')
      (escapeAll inUserinfoSet name, escapeAll inUserinfoSet ((ui.drop name.length).drop 1))
  let hostChars := hostPart hostPort false
  let host ← readHost hostChars
  let port ← readPort ((hostPort.drop hostChars.length).drop 1)
  let afterSlash := match after with
    | '/' :: r => r
    | '\\' :: r => r
    | r => r
  let (path, rest) := readPath afterSlash "" []
  let (query, rest) := match rest with
    | '?' :: r =>
      let q := r.takeWhile (· != '#')
      (some (escapeAll inQuerySet q), r.drop q.length)
    | r => (none, r)
  let fragment := match rest with
    | '#' :: r => some (escapeAll inFragmentSet r)
    | _ => none
  pure { username, password, host, port, path, query, fragment }

/-- The URL without its user name and password, which a client moves into a basic
`Authorization` header before sending. A user name whose escapes do not decode to UTF-8
cannot be moved, and the URL keeps both. -/
def withoutCredentials (u : Url) : Url :=
  if u.username.isEmpty && u.password.isEmpty then u
  else
    match String.fromUTF8? ⟨(percentDecoded u.username.toList).toArray⟩ with
    | some _ => { u with username := "", password := "" }
    | none => u

end Url

end PartCache.Http
