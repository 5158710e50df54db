import PartCache.Schema.Shape
import PartCache.Yaml.Token

/-!
# What a YAML scalar means

A scalar is text; what it stands for depends on its tag and on how it was
written.  A quoted or block scalar is a string.  A plain scalar, or one tagged
with the non-specific `!...` tags, is resolved by its text, first match winning:

1. empty, `~`, `null`, `Null`, `NULL`: null;
2. `true`, `True`, `TRUE`, `false`, `False`, `FALSE`: a boolean;
3. an integer: decimal, or `0x`, `0o`, `0b` with hex, octal or binary digits, with
   one optional `+` (or a `-` for negative ones), tried as 64-bit unsigned, 64-bit
   signed, then 128-bit unsigned and signed;
4. a finite floating point number: `.inf`, `-.inf`, `.nan` in three spellings, or
   decimal digits with an optional fraction and exponent;
5. otherwise a string.

A decimal with a leading zero followed only by digits (`007`) is neither an
integer nor a float.  Scalars tagged `!!bool`, `!!int`, `!!float` or `!!null` must
read as that, or they are invalid values.
-/

namespace PartCache.Yaml

set_option autoImplicit false

/-- What a scalar reads as. -/
inductive Reading where
  | null
  | bool (b : Bool)
  /-- An integer that fits 64 bits unsigned. -/
  | unsigned (n : Nat)
  /-- A negative integer, or minus zero, that fits 64 bits signed. -/
  | signed (n : Int)
  /-- An integer that fits only 128 bits unsigned. -/
  | wide (n : Nat)
  /-- A negative integer that fits only 128 bits signed. -/
  | wideSigned (n : Int)
  | float (x : Binary64)
  | text (s : String)
  deriving Inhabited

/-- An integer as decimal text with its sign. -/
def intText (n : Int) : String := (if n < 0 then "-" else "") ++ Decimal.text n.natAbs

/-- What a reading is called where something else was expected. -/
def Reading.found : Reading → Found
  | .null => .unit
  | .bool b => .bool b
  | .unsigned n => .unsigned n
  | .signed n => .signed n
  | .wide n => .other ("integer `" ++ Decimal.text n ++ "` as u128")
  | .wideSigned n => .other ("integer `" ++ intText n ++ "` as i128")
  | .float x => .float x
  | .text s => .text s

/-! ## Words and integers -/

/-- Whether a text is one of the spellings of null. -/
def isNull (v : String) : Bool := v == "~" || v == "null" || v == "Null" || v == "NULL"

/-- The boolean a text spells, if any. -/
def boolOf (v : String) : Option Bool :=
  if v == "true" || v == "True" || v == "TRUE" then some true
  else if v == "false" || v == "False" || v == "FALSE" then some false
  else none

/-- The value of a digit in a base up to sixteen. -/
def digitIn (radix : Nat) (c : Char) : Option Nat :=
  (hexValue c).bind fun d => if d < radix then some d else none

/-- A run of at least one digit in base `radix`, as a number. -/
def digitsIn (radix : Nat) : List Char → Option Nat
  | [] => none
  | c :: cs =>
    cs.foldl (fun acc c => acc.bind fun a => (digitIn radix c).map (a * radix + ·)) (digitIn radix c)

/-- An unsigned integer of `bits` bits in base `radix`, with an optional `+`. -/
def unsignedIn (bits radix : Nat) (cs : List Char) : Option Nat :=
  let ds := match cs with
    | '+' :: rest => rest
    | _ => cs
  (digitsIn radix ds).bind fun n => if n < Nat.pow 2 bits then some n else none

/-- A signed integer of `bits` bits in base `radix`, with an optional sign. -/
def signedIn (bits radix : Nat) (cs : List Char) : Option Int :=
  match cs with
  | '-' :: rest =>
    (digitsIn radix rest).bind fun n => if n ≤ Nat.pow 2 (bits - 1) then some (-(n : Int)) else none
  | '+' :: rest =>
    (digitsIn radix rest).bind fun n => if n < Nat.pow 2 (bits - 1) then some (n : Int) else none
  | _ => (digitsIn radix cs).bind fun n => if n < Nat.pow 2 (bits - 1) then some (n : Int) else none

/-- Whether a text is a leading zero and more digits, after an optional sign: such a text
is a string, not a number. -/
def digitsButNotNumber (cs : List Char) : Bool :=
  let cs := match cs with
    | '-' :: r => r
    | '+' :: r => r
    | _ => cs
  cs.length > 1 && cs.head? == some '0' && (cs.drop 1).all Char.isDigit

/-- A text without its one optional `+`; a second sign after it rules the text out. -/
def unpositive (cs : List Char) : Option (List Char) :=
  match cs with
  | '+' :: rest => if rest.head? == some '+' || rest.head? == some '-' then none else some rest
  | _ => some cs

/-- Whether a text starts with a sign. -/
def signed? (cs : List Char) : Bool := cs.head? == some '+' || cs.head? == some '-'

/-- A non-negative integer of `bits` bits: with a `0x`, `0o` or `0b` prefix, or decimal. -/
def unsignedOf (bits : Nat) (scalar : List Char) : Option Nat :=
  match unpositive scalar with
  | none => none
  | some u =>
    let withPrefix (p : List Char) (radix : Nat) (otherwise : Unit → Option Nat) : Option Nat :=
      if p.isPrefixOf u then
        let rest := u.drop p.length
        if signed? rest then none
        else match unsignedIn bits radix rest with
          | some n => some n
          | none => otherwise ()
      else otherwise ()
    withPrefix ['0', 'x'] 16 fun _ => withPrefix ['0', 'o'] 8 fun _ => withPrefix ['0', 'b'] 2 fun _ =>
      if signed? u || digitsButNotNumber scalar then none else unsignedIn bits 10 u

/-- A negative (or signed decimal) integer of `bits` bits: `-0x`, `-0o`, `-0b`, or decimal. -/
def negativeOf (bits : Nat) (scalar : List Char) : Option Int :=
  let withPrefix (p : List Char) (radix : Nat) (otherwise : Unit → Option Int) : Option Int :=
    if p.isPrefixOf scalar then
      match signedIn bits radix ('-' :: scalar.drop p.length) with
      | some n => some n
      | none => otherwise ()
    else otherwise ()
  withPrefix ['-', '0', 'x'] 16 fun _ => withPrefix ['-', '0', 'o'] 8 fun _ =>
    withPrefix ['-', '0', 'b'] 2 fun _ =>
      if digitsButNotNumber scalar then none else signedIn bits 10 scalar

/-- An integer, in the widths tried in order. -/
def intOf (cs : List Char) : Option Reading :=
  match unsignedOf 64 cs with
  | some n => some (.unsigned n)
  | none =>
    match negativeOf 64 cs with
    | some n => some (.signed n)
    | none =>
      match unsignedOf 128 cs with
      | some n => some (.wide n)
      | none => (negativeOf 128 cs).map .wideSigned

/-! ## Floating point -/

/-- The number a run of decimal digits stands for. -/
def decimalValue (cs : List Char) : Nat :=
  cs.foldl (fun n c => n * 10 + (c.toNat - '0'.toNat)) 0

/-- A decimal number with an optional sign, fraction and exponent, and at least one digit
before the exponent, as the nearest binary64 value. -/
def decimalOf (cs : List Char) : Option Binary64 :=
  let (negative, cs) := match cs with
    | '-' :: r => (true, r)
    | '+' :: r => (false, r)
    | _ => (false, cs)
  let whole := cs.takeWhile Char.isDigit
  let cs := cs.drop whole.length
  let (fraction, cs) := match cs with
    | '.' :: r =>
      let f := r.takeWhile Char.isDigit
      (f, r.drop f.length)
    | _ => ([], cs)
  if whole.isEmpty && fraction.isEmpty then none
  else
    let exponent : Option Int := match cs with
      | [] => some 0
      | e :: r =>
        if e == 'e' || e == 'E' then
          let (neg, r) := match r with
            | '-' :: r' => (true, r')
            | '+' :: r' => (false, r')
            | _ => (false, r)
          if !r.isEmpty && r.all Char.isDigit then
            let n : Int := decimalValue r
            some (if neg then -n else n)
          else none
        else none
    exponent.map fun e =>
      Binary64.ofDecimal negative (decimalValue (whole ++ fraction)) (e - fraction.length)

/-- A finite floating point number, or an infinity or NaN in YAML's spelling. -/
def floatOf (scalar : List Char) : Option Binary64 :=
  match unpositive scalar with
  | none => none
  | some u =>
    let s := String.ofList u
    let whole := String.ofList scalar
    if s == ".inf" || s == ".Inf" || s == ".INF" then some (.infinity false)
    else if whole == "-.inf" || whole == "-.Inf" || whole == "-.INF" then some (.infinity true)
    else if whole == ".nan" || whole == ".NaN" || whole == ".NAN" then some .nan
    else match decimalOf u with
      | some x => if x.isFinite then some x else none
      | none => none

/-! ## Resolution -/

/-- What a plain scalar's text reads as. -/
def untagged (v : String) : Reading :=
  let cs := v.toList
  if v.isEmpty || isNull v then .null
  else match boolOf v with
    | some b => .bool b
    | none =>
      match intOf cs with
      | some r => r
      | none =>
        if digitsButNotNumber cs then .text v
        else match floatOf cs with
          | some x => .float x
          | none => .text v

/-- The standard schema's tags. -/
def boolTag : String := "tag:yaml.org,2002:bool"
def intTag : String := "tag:yaml.org,2002:int"
def floatTag : String := "tag:yaml.org,2002:float"
def nullTag : String := "tag:yaml.org,2002:null"

/-- What a scalar reads as, given its tag and style; a standard tag the text does not fit
gives the message for that invalid value. -/
def Reading.ofScalar (tag : Option Tag) (v : String) (style : ScalarStyle) :
    Except String Reading :=
  match tag with
  | some t =>
    if t.is boolTag then
      match boolOf v with
      | some b => .ok (.bool b)
      | none => .error (Mismatch.invalidValue (.text v) "a boolean")
    else if t.is intTag then
      match intOf v.toList with
      | some r => .ok r
      | none => .error (Mismatch.invalidValue (.text v) "an integer")
    else if t.is floatTag then
      match floatOf v.toList with
      | some x => .ok (.float x)
      | none => .error (Mismatch.invalidValue (.text v) "a float")
    else if t.is nullTag then
      if isNull v then .ok .null else .error (Mismatch.invalidValue (.text v) "null")
    else if t.isLocal && style == .plain then .ok (untagged v)
    else .ok (.text v)
  | none => if style == .plain then .ok (untagged v) else .ok (.text v)

/-- Whether a scalar may be read directly as a number of the standard type named by
`typeTag`: a plain scalar always may, and a literal block scalar only when it carries
exactly that tag. Quoted and folded scalars never are. -/
def ScalarStyle.readsAs (typeTag : String) (tag : Option Tag) : ScalarStyle → Bool
  | .plain => true
  | .literal => match tag with
    | some t => t.is typeTag
    | none => false
  | _ => false

end PartCache.Yaml
