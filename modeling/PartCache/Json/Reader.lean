import PartCache.Schema.Shape
import PartCache.Bytes

/-!
# Reading JSON documents against a shape

Stored metadata and settings are read from their bytes against a `Shape`, in one
pass from left to right, so that the first fault met is the one reported, be it
a syntax fault or a value of the wrong kind.  Every fault carries the position
where reading stopped: the line (from one) and the number of bytes read on that
line, or, for a fault in the next byte, the position just after it.

* Blanks are space, tab, carriage return and line feed.
* A record is read from an object, where unknown members are skipped (their
  syntax is still checked), a repeated field is refused right after its name,
  and a missing required field is reported after the closing brace; or from an
  array of its fields in order.
* Integers are read exactly while they fit 64 bits; a number with a fraction or an
  exponent, or too large, is a binary64 value, which no integer field accepts.  Its
  value is computed from a significand of at most 64 bits and a power of ten, as
  `Binary64.scaleDecimal` says, so it may differ from the nearest value by a unit.
* In strings, `\uXXXX` escapes must pair their surrogates.

Of this reader the proofs use one fact, that the settings file a zone writes
reads back as its part size (`ofJson_settingsText`).
-/

namespace PartCache.JsonReader

set_option autoImplicit false

/-- The unread input and the position reached. -/
structure Cursor where
  rest : List UInt8
  /-- The line reached, from one. -/
  line : Nat
  /-- The bytes read on the current line. -/
  col : Nat

/-- A fault and where reading stopped. -/
structure Fault where
  message : String
  line : Nat
  col : Nat

/-- The text of a fault: its message and position. -/
def Fault.text (f : Fault) : String :=
  if f.line = 0 then f.message
  else f.message ++ " at line " ++ Decimal.text f.line ++ " column " ++ Decimal.text f.col

/-- A step of reading: it moves the cursor, or fails with a fault. -/
abbrev Read := StateT Cursor (Except Fault)

namespace Cursor

/-- The cursor after one more byte. -/
def next (c : Cursor) : Cursor :=
  match c.rest with
  | [] => c
  | b :: r => if b = 10 then ⟨r, c.line + 1, 0⟩ else ⟨r, c.line, c.col + 1⟩

/-- The position just after the next byte, or here at the end. -/
def peekPos (c : Cursor) : Nat × Nat :=
  match c.rest with
  | [] => (c.line, c.col)
  | b :: _ => if b = 10 then (c.line + 1, 0) else (c.line, c.col + 1)

end Cursor

/-! ## Primitive steps -/

/-- Fails with a message at the position reached. -/
def fail {α : Type} (msg : String) : Read α := fun c => .error ⟨msg, c.line, c.col⟩

/-- Fails with a message at the position just after the next byte. -/
def failNext {α : Type} (msg : String) : Read α := fun c =>
  let (l, k) := c.peekPos
  .error ⟨msg, l, k⟩

/-- The next byte, unread. -/
def peek : Read (Option UInt8) := fun c => .ok (c.rest.head?, c)

/-- Reads one byte. -/
def bump : Read Unit := fun c => .ok ((), c.next)

/-- Reads the next byte and returns it. -/
def nextByte : Read (Option UInt8) := fun c => .ok (c.rest.head?, c.next)

/-- Whether a byte is a blank between tokens. -/
def isBlank (b : UInt8) : Bool := b = 32 || b = 10 || b = 9 || b = 13

/-- The cursor past the blanks at the front of `rest`, from a given position. -/
def skipBlanks : List UInt8 → Nat → Nat → Cursor
  | b :: r, line, col =>
    if isBlank b then
      if b = 10 then skipBlanks r (line + 1) 0 else skipBlanks r line (col + 1)
    else ⟨b :: r, line, col⟩
  | [], line, col => ⟨[], line, col⟩

/-- The cursor past the blanks ahead. -/
def blanks (c : Cursor) : Cursor := skipBlanks c.rest c.line c.col

/-- Skips blanks and returns the next byte, unread. -/
def peekToken : Read (Option UInt8) := fun c =>
  let c := blanks c
  .ok (c.rest.head?, c)

/-- Whether a byte is an ASCII digit. -/
def isDigit (b : UInt8) : Bool := 48 ≤ b && b ≤ 57

/-- The messages of syntax faults. -/
def eofValue : String := "EOF while parsing a value"
def eofList : String := "EOF while parsing a list"
def eofObject : String := "EOF while parsing an object"
def eofString : String := "EOF while parsing a string"
def expectedColon : String := "expected `:`"
def expectedListEnd : String := "expected `,` or `]`"
def expectedObjectEnd : String := "expected `,` or `\x7d`"
def expectedIdent : String := "expected ident"
def expectedValue : String := "expected value"
def invalidEscape : String := "invalid escape"
def invalidNumber : String := "invalid number"
def outOfRange : String := "number out of range"
def invalidCodePoint : String := "invalid unicode code point"
def controlInString : String := "control character (\\u0000-\\u001F) found while parsing a string"
def keyNotString : String := "key must be a string"
def loneSurrogate : String := "lone leading surrogate in hex escape"
def trailingComma : String := "trailing comma"
def trailingCharacters : String := "trailing characters"
def hexEscapeEnd : String := "unexpected end of hex escape"

/-- Reads the rest of a keyword whose first letter was read. -/
def keyword : List UInt8 → Read Unit
  | [] => pure ()
  | b :: bs => do
    match ← nextByte with
    | none => fail eofValue
    | some x => if x = b then keyword bs else fail expectedIdent

/-! ## Numbers -/

/-- A number as read: an unsigned or negative integer, or a binary64 value. -/
inductive Number where
  | unsigned (n : Nat)
  | negative (n : Int)
  | float (x : Binary64)

/-- What a number is, when it is not what was expected. -/
def Number.found : Number → Found
  | .unsigned n => .unsigned n
  | .negative n => .signed n
  | .float x => .shortFloat x

/-- Reads a run of digits onto a value, counting them. -/
def digitRun : Nat → Nat → Nat → Read (Nat × Nat)
  | 0, acc, k => pure (acc, k)
  | fuel + 1, acc, k => do
    match ← peek with
    | some b =>
      if isDigit b then (do bump; digitRun fuel (10 * acc + (b - 48).toNat) (k + 1))
      else pure (acc, k)
    | none => pure (acc, k)

/-- The largest 64-bit word, the bound of a significand. -/
def wordMax : Nat := UInt64.size - 1

/-- The largest 32-bit signed integer, the bound of an exponent. -/
def exponentMax : Nat := 2147483647

/-- Whether `n * 10 + d` would pass `bound`. -/
def passesBound (bound n d : Nat) : Bool := n ≥ bound / 10 && (n > bound / 10 || d > bound % 10)

/-- An exponent held to the 32-bit signed range. -/
def saturate (e : Int) : Int := max (-(exponentMax : Int) - 1) (min e exponentMax)

/-- Reads digits onto a significand while it stays a 64-bit word, leaving unread the digit
that would pass the bound: the significand, the digits taken, and whether such a digit
stopped the run. -/
def significandDigits : Nat → Nat → Nat → Read (Nat × Nat × Bool)
  | 0, sig, k => pure (sig, k, false)
  | fuel + 1, sig, k => do
    match ← peek with
    | some b =>
      if isDigit b then
        let d := (b - 48).toNat
        if passesBound wordMax sig d then pure (sig, k, true)
        else do bump; significandDigits fuel (sig * 10 + d) (k + 1)
      else pure (sig, k, false)
    | none => pure (sig, k, false)

/-- Skips a run of digits, counting it onto `k`. -/
def countDigits : Nat → Nat → Read Nat
  | 0, k => pure k
  | fuel + 1, k => do
    match ← peek with
    | some b => if isDigit b then (do bump; countDigits fuel (k + 1)) else pure k
    | none => pure k

/-- Reads exponent digits onto `x`, each digit read before it is added; `none` when the
exponent would pass the 32-bit signed range. -/
def exponentDigits : Nat → Nat → Read (Option Nat)
  | 0, x => pure (some x)
  | fuel + 1, x => do
    match ← peek with
    | some b =>
      if isDigit b then do
        bump
        let d := (b - 48).toNat
        if passesBound exponentMax x d then pure none
        else exponentDigits fuel (x * 10 + d)
      else pure (some x)
    | none => pure (some x)

/-- The number `significand * 10 ^ exponent` with a sign, as a binary64 value computed by
`Binary64.scaleDecimal`; one whose size passes every binary64 value is out of range. -/
def fromParts (positive : Bool) (significand : Nat) (exponent : Int) : Read Number :=
  match Binary64.scaleDecimal significand exponent with
  | some x => pure (.float (if positive then x else x.negate))
  | none => fail outOfRange

/-- Reads an exponent after `e` and makes the number.  An exponent beyond the 32-bit
signed range makes zero, unless it is positive and the significand is not zero. -/
def exponentPart (fuel : Nat) (positive : Bool) (significand : Nat) (start : Int) :
    Read Number := do
  bump
  let positiveExponent ← do
    match ← peek with
    | some 43 => bump; pure true
    | some 45 => bump; pure false
    | _ => pure true
  match ← nextByte with
  | none => fail eofValue
  | some d =>
    if isDigit d then do
      match ← exponentDigits fuel (d - 48).toNat with
      | some x =>
        fromParts positive significand
          (saturate (if positiveExponent then start + x else start - x))
      | none =>
        if significand ≠ 0 && positiveExponent then fail outOfRange
        else do
          let _ ← countDigits fuel 0
          pure (.float (Binary64.finite (!positive) 0 Binary64.minExponent))
    else fail invalidNumber

/-- Reads what follows a fraction's digits: an exponent, or nothing. -/
def afterFraction (fuel : Nat) (positive : Bool) (significand : Nat) (exponent : Int) :
    Read Number := do
  match ← peek with
  | some 101 | some 69 => exponentPart fuel positive significand exponent
  | _ => fromParts positive significand exponent

/-- Reads a fraction after its point onto a significand: digits are taken while the
significand stays a 64-bit word, and the rest are passed over. -/
def fractionPart (fuel : Nat) (positive : Bool) (significand : Nat) (before : Int) :
    Read Number := do
  bump
  let (sig, k, stopped) ← significandDigits fuel significand 0
  if stopped then do
    let _ ← countDigits fuel 0
    afterFraction fuel positive sig (before - k)
  else if k = 0 then
    match ← peek with
    | some _ => failNext invalidNumber
    | none => failNext eofValue
  else afterFraction fuel positive sig (before - k)

/-- Reads what follows the digits of an integer that fits 64 bits: a fraction, an exponent,
or nothing, when it is an integer.  A negative integer is a binary64 value when it is
zero or below the 64-bit signed range. -/
def numberTail (fuel : Nat) (positive : Bool) (significand : Nat) : Read Number := do
  match ← peek with
  | some 46 => fractionPart fuel positive significand 0
  | some 101 | some 69 => exponentPart fuel positive significand 0
  | _ =>
    if positive then pure (.unsigned significand)
    else if 1 ≤ significand ∧ significand ≤ Nat.pow 2 63 then
      pure (.negative (-(significand : Int)))
    else pure (.float (Binary64.ofRatio true significand 1))

/-- Reads a number whose sign, if any, was read.  Integer digits past a 64-bit significand
only count towards its exponent. -/
def number (fuel : Nat) (positive : Bool) : Read Number := do
  match ← nextByte with
  | none => fail eofValue
  | some 48 =>
    match ← peek with
    | some b => if isDigit b then failNext invalidNumber else numberTail fuel positive 0
    | none => numberTail fuel positive 0
  | some d =>
    if isDigit d then do
      let (sig, _, stopped) ← significandDigits fuel (d - 48).toNat 1
      if stopped then do
        let extra ← countDigits fuel 0
        match ← peek with
        | some 46 => fractionPart fuel positive sig extra
        | some 101 | some 69 => exponentPart fuel positive sig extra
        | _ => fromParts positive sig extra
      else numberTail fuel positive sig
    else fail invalidNumber

/-- Skips the digits ahead. -/
def skipDigits (fuel : Nat) : Read Unit := do
  let _ ← digitRun fuel 0 0

/-- Skips a number whose sign, if any, was read, checking only its syntax. -/
def skipNumber (fuel : Nat) : Read Unit := do
  let first ← nextByte
  match first with
  | some 48 =>
    match ← peek with
    | some b => if isDigit b then failNext invalidNumber else pure ()
    | none => pure ()
  | some d => if isDigit d then skipDigits fuel else fail invalidNumber
  | none => fail invalidNumber
  let skipExponent : Read Unit := do
    bump
    match ← peek with
    | some 43 | some 45 => bump
    | _ => pure ()
    match ← peek with
    | some d => if isDigit d then (do bump; skipDigits fuel) else (do bump; fail invalidNumber)
    | none => fail invalidNumber
  match ← peek with
  | some 46 => do
    bump
    let (_, k) ← digitRun fuel 0 0
    if k = 0 then failNext invalidNumber
    else
      match ← peek with
      | some 101 | some 69 => skipExponent
      | _ => pure ()
  | some 101 | some 69 => skipExponent
  | _ => pure ()

/-! ## Strings -/

/-- The value of a hexadecimal digit byte. -/
def hexValue (b : UInt8) : Option Nat := Bytes.hexValue (Char.ofNat b.toNat)

/-- Reads the four digits of a `\u` escape. -/
def hexEscape : Read Nat := fun c =>
  match c.rest with
  | a :: b :: d :: e :: _ =>
    let c' := c.next.next.next.next
    match hexValue a, hexValue b, hexValue d, hexValue e with
    | some w, some x, some y, some z => .ok (((w * 16 + x) * 16 + y) * 16 + z, c')
    | _, _, _, _ => .error ⟨invalidEscape, c'.line, c'.col⟩
  | rest =>
    let c' : Cursor := ⟨[], c.line, c.col + rest.length⟩
    .error ⟨eofString, c'.line, c'.col⟩

/-- The UTF-8 bytes of a code point. -/
def utf8 (n : Nat) : Bytes := Bytes.ofString (String.singleton (Char.ofNat n))

/-- Reads the rest of a `\u` escape, pairing surrogates, onto the bytes read so far. -/
def unicodeEscape (acc : Bytes) : Read Bytes := do
  let n ← hexEscape
  if 0xDC00 ≤ n ∧ n ≤ 0xDFFF then fail loneSurrogate
  else if n < 0xD800 ∨ n > 0xDBFF then pure (acc ++ utf8 n)
  else
    match ← nextByte with
    | none => fail eofString
    | some 92 =>
      match ← nextByte with
      | none => fail eofString
      | some 117 =>
        let n2 ← hexEscape
        if n2 < 0xDC00 ∨ n2 > 0xDFFF then fail loneSurrogate
        else pure (acc ++ utf8 ((((n - 0xD800) * 1024) + (n2 - 0xDC00)) + 0x10000))
      | some _ => fail hexEscapeEnd
    | some _ => fail hexEscapeEnd

/-- Reads one escape after its backslash onto the bytes read so far. -/
def escape (acc : Bytes) : Read Bytes := do
  match ← nextByte with
  | none => fail eofString
  | some 34 => pure (acc ++ [34])
  | some 92 => pure (acc ++ [92])
  | some 47 => pure (acc ++ [47])
  | some 98 => pure (acc ++ [8])
  | some 102 => pure (acc ++ [12])
  | some 110 => pure (acc ++ [10])
  | some 114 => pure (acc ++ [13])
  | some 116 => pure (acc ++ [9])
  | some 117 => unicodeEscape acc
  | some _ => fail invalidEscape

/-- Reads the body of a string after its opening quote, up to its closing quote, onto the
bytes read so far. -/
def stringBody : Nat → Bytes → Read Bytes
  | 0, acc => pure acc
  | fuel + 1, acc => do
    match ← peek with
    | none => fail eofString
    | some 34 => pure acc
    | some 92 => do bump; let acc ← escape acc; stringBody fuel acc
    | some b =>
      if b < 32 then (do bump; fail controlInString)
      else (do bump; stringBody fuel (acc ++ [b]))

/-- Reads a string after its opening quote, through its closing quote. Its bytes, escapes
decoded, must be UTF-8; this is checked at the closing quote, after every escape and
control character, and a fault is placed as if the decoded bytes ended at the quote: one
past the start of the first malformed sequence, counted back from just past the quote. -/
def string (fuel : Nat) : Read String := do
  let bs ← stringBody fuel []
  match Bytes.toString? bs with
  | some s => do bump; pure s
  | none =>
    let fault : Read String := fun c =>
      .error ⟨invalidCodePoint, c.line, c.col + 1 + Bytes.validPrefix bs - bs.length⟩
    fault

/-- Skips one escape after its backslash, checking only its syntax. -/
def skipEscape : Read Unit := do
  match ← nextByte with
  | none => fail eofString
  | some b =>
    if b = 34 ∨ b = 92 ∨ b = 47 ∨ b = 98 ∨ b = 102 ∨ b = 110 ∨ b = 114 ∨ b = 116 then pure ()
    else if b = 117 then (do let _ ← hexEscape)
    else fail invalidEscape

/-- Skips the body of a string after its opening quote, checking only its syntax. -/
def skipString : Nat → Read Unit
  | 0 => pure ()
  | fuel + 1 => do
    match ← peek with
    | none => fail eofString
    | some 34 => bump
    | some 92 => do bump; skipEscape; skipString fuel
    | some b => if b < 32 then fail controlInString else (do bump; skipString fuel)

/-! ## Skipping a value -/

/-- After a value inside open brackets: reads closing brackets and a comma, if any. -/
def closeFrames : Nat → List UInt8 → UInt8 → Bool → Read (Option (List UInt8 × UInt8))
  | 0, _, _, _ => pure none
  | fuel + 1, stack, frame, acceptComma => do
    match ← peekToken with
    | some 44 =>
      if acceptComma then (do bump; pure (some (stack, frame)))
      else pure (some (stack, frame))
    | some b =>
      if (b = 93 ∧ frame = 91) ∨ (b = 125 ∧ frame = 123) then do
        bump
        match stack with
        | f :: rest => closeFrames fuel rest f true
        | [] => pure none
      else if acceptComma then
        failNext (if frame = 91 then expectedListEnd else expectedObjectEnd)
      else pure (some (stack, frame))
    | none => failNext (if frame = 91 then eofList else eofObject)

/-- Skips one value, nested brackets included, checking its syntax. -/
def skipValue : Nat → List UInt8 → Option UInt8 → Read Unit
  | 0, _, _ => pure ()
  | fuel + 1, stack, enclosing => do
    let opened ← do
      match ← peekToken with
      | none => failNext eofValue
      | some 110 => do bump; keyword [117, 108, 108]; pure none
      | some 116 => do bump; keyword [114, 117, 101]; pure none
      | some 102 => do bump; keyword [97, 108, 115, 101]; pure none
      | some 45 => do bump; skipNumber fuel; pure none
      | some 34 => do bump; skipString fuel; pure none
      | some b =>
        if isDigit b then (do skipNumber fuel; pure none)
        else if b = 91 ∨ b = 123 then (do bump; pure (some b))
        else failNext expectedValue
    let stack := match opened with
      | some _ => enclosing.toList ++ stack
      | none => stack
    let start : Option (List UInt8 × UInt8 × Bool) := match opened, enclosing, stack with
      | some f, _, st => some (st, f, false)
      | none, some f, st => some (st, f, true)
      | none, none, f :: st => some (st, f, true)
      | none, none, [] => none
    match start with
    | none => pure ()
    | some (st, f, acceptComma) =>
      match ← closeFrames fuel st f acceptComma with
      | none => pure ()
      | some (st, f) => do
        if f = 123 then do
          match ← peekToken with
          | some 34 => bump
          | some _ => failNext keyNotString
          | none => failNext eofObject
          skipString fuel
          match ← peekToken with
          | some 58 => bump
          | some _ => failNext expectedColon
          | none => failNext eofObject
        skipValue fuel st (some f)

/-! ## Reading against a shape -/

/-- Fails for a value of the wrong kind ahead, reading it first when it is a scalar. -/
def mismatch {α : Type} (fuel : Nat) (expected : String) : Read α := do
  let found ← do
    match ← peekToken with
    | some 110 => do bump; keyword [117, 108, 108]; pure Found.null
    | some 116 => do bump; keyword [114, 117, 101]; pure (Found.bool true)
    | some 102 => do bump; keyword [97, 108, 115, 101]; pure (Found.bool false)
    | some 45 => do bump; let n ← number fuel false; pure n.found
    | some 34 => do bump; let s ← string fuel; pure (Found.text s)
    | some 91 => pure Found.sequence
    | some 123 => pure Found.map
    | some b =>
      if isDigit b then (do let n ← number fuel true; pure n.found)
      else failNext expectedValue
    | none => failNext expectedValue
  fail (Mismatch.invalidType found expected)

/-- Reads an integer in `[lo, hi]`. -/
def word (fuel : Nat) (name : String) (lo hi : Int) : Read Value := do
  let n ← do
    match ← peekToken with
    | none => failNext eofValue
    | some 45 => do bump; number fuel false
    | some b => if isDigit b then number fuel true else mismatch fuel name
  match n with
  | .float x => fail (Mismatch.invalidType (.shortFloat x) name)
  | .unsigned m => match Shape.checkWord name lo hi m with
    | .ok v => pure v
    | .error e => fail e
  | .negative m => match Shape.checkWord name lo hi m with
    | .ok v => pure v
    | .error e => fail e

/-- Reads the separator before the next array item; `false` at the closing bracket. -/
def nextItem (first : Bool) : Read Bool := do
  let b ← do
    match ← peekToken with
    | some 93 => return false
    | some 44 => if first then failNext expectedListEnd else (do bump; peekToken)
    | some b => if first then pure (some b) else failNext expectedListEnd
    | none => failNext eofList
  match b with
  | some 93 => failNext trailingComma
  | some _ => pure true
  | none => failNext eofValue

/-- Reads the separator before the next object key; `false` at the closing brace. -/
def nextKey (first : Bool) : Read Bool := do
  let b ← do
    match ← peekToken with
    | some 125 => return false
    | some 44 => if first then failNext expectedObjectEnd else (do bump; peekToken)
    | some b => if first then pure (some b) else failNext expectedObjectEnd
    | none => failNext eofObject
  match b with
  | some 34 => do bump; pure true
  | some 125 => failNext trailingComma
  | some _ => failNext keyNotString
  | none => failNext eofValue

/-- Reads the colon between a key and its value. -/
def colon : Read Unit := do
  match ← peekToken with
  | some 58 => bump
  | some _ => failNext expectedColon
  | none => failNext eofObject

/-- Reads the closing bracket after the items of a record read from an array. -/
def closeList : Read Unit := do
  match ← peekToken with
  | some 93 => bump
  | some 44 => do
    bump
    match ← peekToken with
    | some 93 => failNext trailingComma
    | _ => failNext trailingCharacters
  | some _ => failNext trailingCharacters
  | none => failNext eofList

/-- Reads the closing brace of an object. -/
def closeObject : Read Unit := do
  match ← peekToken with
  | some 125 => bump
  | some 44 => failNext trailingComma
  | some _ => failNext trailingCharacters
  | none => failNext eofObject

/-- Fails with a message that has no position of its own: the closing step runs first, for
its movement only, and the fault is placed where it stops. -/
def failAfter {α : Type} (msg : String) (after : Read Unit) : Read α := do
  let c ← get
  set (match after c with
    | .ok (_, c') => c'
    | .error _ => blanks c)
  fail msg

mutual

/-- Reads a value of a shape. -/
def value : Nat → Shape → Read Value
  | 0, _ => fail "recursion limit exceeded"
  | fuel + 1, .text => textValue fuel "a string"
  | fuel + 1, .path => textValue fuel "path string"
  | fuel + 1, .word name lo hi => word fuel name lo hi
  | fuel + 1, .list item => do
    match ← peekToken with
    | some 91 => do
      bump
      let items ← items fuel item true []
      closeList
      pure (.list items)
    | some _ => mismatch fuel "a sequence"
    | none => failNext eofValue
  | fuel + 1, .dict v => do
    match ← peekToken with
    | some 123 => do
      bump
      let entries ← entries fuel v true []
      closeObject
      pure (.dict entries)
    | some _ => mismatch fuel "a map"
    | none => failNext eofValue
  | fuel + 1, .record name fields => do
    match ← peekToken with
    | some 123 => do
      bump
      let found ← members fuel fields true []
      let missing := fields.find? fun (k, _, optional) => !optional && !(found.any (·.1 == k))
      match missing with
      | some (k, _, _) => failAfter (Mismatch.missingField k) closeObject
      | none => do closeObject; pure (.record found)
    | some 91 => do
      bump
      let found ← positional fuel name fields.length fields true 0 []
      closeList
      pure (.record found)
    | some _ => mismatch fuel ("struct " ++ name)
    | none => failNext eofValue
  | fuel + 1, .choice name _ => mismatch fuel ("enum " ++ name)
  | fuel + 1, .optional inner => do
    match ← peekToken with
    | some 110 => do bump; keyword [117, 108, 108]; pure .none
    | _ => value fuel inner

/-- Reads a text. -/
def textValue : Nat → String → Read Value
  | fuel, expected => do
    match ← peekToken with
    | some 34 => do bump; let s ← string fuel; pure (.text s)
    | some _ => mismatch fuel expected
    | none => failNext eofValue

/-- Reads the items of an array of one shape. -/
def items : Nat → Shape → Bool → List Value → Read (List Value)
  | 0, _, _, acc => pure acc.reverse
  | fuel + 1, item, first, acc => do
    if ← nextItem first then do
      let v ← value fuel item
      items fuel item false (v :: acc)
    else pure acc.reverse

/-- Reads the entries of an object of one value shape; a later key replaces an earlier one. -/
def entries : Nat → Shape → Bool → List (String × Value) → Read (List (String × Value))
  | 0, _, _, acc => pure acc
  | fuel + 1, v, first, acc => do
    if ← nextKey first then do
      let k ← string fuel
      colon
      let x ← value fuel v
      entries fuel v false ((acc.filter (·.1 != k)) ++ [(k, x)])
    else pure acc

/-- Reads the members of an object holding a record. -/
def members : Nat → List (String × Shape × Bool) → Bool → List (String × Value) →
    Read (List (String × Value))
  | 0, _, _, acc => pure acc
  | fuel + 1, fields, first, acc => do
    if ← nextKey first then do
      let k ← string fuel
      match fields.find? (·.1 == k) with
      | some (_, shape, _) =>
        if acc.any (·.1 == k) then
          failAfter (Mismatch.duplicateField k) closeObject
        else do
          colon
          let x ← value fuel shape
          members fuel fields false (acc ++ [(k, x)])
      | none => do
        colon
        skipValue fuel [] none
        members fuel fields false acc
    else pure acc

/-- Reads the fields of a record from an array, in order. -/
def positional : Nat → String → Nat → List (String × Shape × Bool) → Bool → Nat →
    List (String × Value) → Read (List (String × Value))
  | 0, _, _, _, _, _, acc => pure acc
  | _, _, _, [], _, _, acc => pure acc
  | fuel + 1, name, total, (k, shape, optional) :: rest, first, i, acc => do
    if ← nextItem first then do
      let x ← value fuel shape
      positional fuel name total rest false (i + 1) (acc ++ [(k, x)])
    else if optional then positional fuel name total rest first (i + 1) acc
    else
      failAfter (Mismatch.invalidLength i
        ("struct " ++ name ++ " with " ++ Decimal.text total ++ " elements")) closeList

end

/-- Reads a whole document of a shape: one value, then nothing but blanks. -/
def document (shape : Shape) (input : Bytes) : Except Fault Value :=
  let fuel := 2 * input.length + 8
  let whole : Read Value := do
    let v ← value fuel shape
    match ← peekToken with
    | some _ => failNext trailingCharacters
    | none => pure v
  (whole.run ⟨input, 1, 0⟩).map Prod.fst

end PartCache.JsonReader
