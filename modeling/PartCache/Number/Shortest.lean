import PartCache.Number.Binary64

/-!
# The shortest decimal of a binary64 value

A binary64 value is written with the fewest significant decimal digits that read
back to it; of two such decimals the nearer one is taken, and of two equally near
the even one.  The reals that read back to `m * 2 ^ e` form an interval around
it whose ends lie half a gap away on each side (the gap below is halved where `m`
is the least normal mantissa), ends included exactly when `m` is even.  For
`n = 1, 2, …, 17` significant digits the two neighbours of the value on the
decimal grid of that precision are tested, by exact natural number arithmetic;
if any decimal of `n` digits lies in the interval, one of those two does.

Two texts are made from the digits: the positional one, which never uses an
exponent (`1000`, `0.001`), and the compact one, which writes an exponent only
outside seventeen places around the point, always with its sign (`1.0`, `0.5`,
`1e-7`, `1.5e+300`).
-/

namespace PartCache

set_option autoImplicit false

/-- A decimal number `(-1) ^ negative * digits * 10 ^ exponent`. -/
structure DecimalForm where
  negative : Bool
  digits : Nat
  exponent : Int
  deriving Repr, DecidableEq

namespace Shortest

/-- `c * 10 ^ k` compared with `b * 2 ^ f`, exactly. -/
def compareScaled (c : Nat) (k : Int) (b : Nat) (f : Int) : Ordering :=
  compare (c * Nat.pow 10 k.toNat * Nat.pow 2 (-f).toNat) (b * Nat.pow 2 f.toNat * Nat.pow 10 (-k).toNat)

/-- The floor of the base-ten logarithm of `m * 2 ^ e`, for positive `m`. -/
def floorLog10 (m : Nat) (e : Int) : Int :=
  let bits : Int := (Nat.log2 m : Int) + e
  let guess : Int := bits * 30103 / 100000
  let atMost (d : Int) : Bool := compareScaled 1 d m e != .gt
  if atMost (guess + 1) then guess + 1
  else if atMost guess then guess
  else if atMost (guess - 1) then guess - 1
  else guess - 2

/-- Whether `c * 10 ^ k` reads back to `m * 2 ^ e`. -/
def readsBack (m : Nat) (e : Int) (c : Nat) (k : Int) : Bool :=
  -- the ends of the interval, in units of `2 ^ (e - 2)`
  let high := 4 * m + 2
  let low := if m = Nat.pow 2 52 ∧ e > Binary64.minExponent then 4 * m - 1 else 4 * m - 2
  let closed := m % 2 == 0
  let aboveLow := match compareScaled c k low (e - 2) with
    | .gt => true
    | .eq => closed
    | .lt => false
  let belowHigh := match compareScaled c k high (e - 2) with
    | .lt => true
    | .eq => closed
    | .gt => false
  aboveLow && belowHigh

/-- The decimal of `n` significant digits nearest to `m * 2 ^ e` that reads back, if any. -/
def atPrecision (m : Nat) (e : Int) (top : Int) (n : Nat) : Option (Nat × Int) :=
  let k := top - n + 1
  let below := (m * Nat.pow 2 e.toNat * Nat.pow 10 (-k).toNat) / (Nat.pow 2 (-e).toNat * Nat.pow 10 k.toNat)
  let above := below + 1
  let belowOk := below > 0 && readsBack m e below k
  let aboveOk := readsBack m e above k
  if belowOk && aboveOk then
    -- twice the value against the midpoint of the two neighbours
    match compareScaled (2 * below + 1) k (2 * m) e with
    | .gt => some (below, k)
    | .lt => some (above, k)
    | .eq => if below % 2 == 0 then some (below, k) else some (above, k)
  else if belowOk then some (below, k)
  else if aboveOk then some (above, k)
  else none

/-- Removes the trailing zeros of a decimal, raising its exponent to match. -/
def trimZeros (c : Nat) (k : Int) : Nat × Int :=
  if h : c ≠ 0 ∧ c % 10 = 0 then trimZeros (c / 10) (k + 1) else (c, k)
termination_by c
decreasing_by omega

/-- The shortest decimal of `m * 2 ^ e` that reads back, for positive `m`. -/
def digitsOf (m : Nat) (e : Int) : Nat × Int :=
  let top := floorLog10 m e
  match (List.range 17).findSome? (fun i => atPrecision m e top (i + 1)) with
  | some (c, k) => trimZeros c k
  | none => trimZeros m 0

end Shortest

namespace Binary64

/-- The shortest decimal that reads back to a finite value; zero is `0 * 10 ^ 0`. -/
def toDecimal? : Binary64 → Option DecimalForm
  | finite s 0 _ => some ⟨s, 0, 0⟩
  | finite s m e =>
    let (c, k) := Shortest.digitsOf m e
    some ⟨s, c, k⟩
  | _ => none

end Binary64

namespace DecimalForm

/-- The digits without exponent: `1000`, `12.5`, `0.001`. -/
def positionalBody (d : DecimalForm) : String :=
  let ds := Decimal.digits d.digits
  let body : List Char :=
    if d.exponent ≥ 0 then ds ++ List.replicate d.exponent.toNat '0'
    else
      let point : Int := ds.length + d.exponent
      if point > 0 then ds.take point.toNat ++ ['.'] ++ ds.drop point.toNat
      else ['0', '.'] ++ List.replicate (-point).toNat '0' ++ ds
  String.ofList body

/-- The sign mark of a decimal. -/
def signText (d : DecimalForm) : String := if d.negative then "-" else ""

/-- The positional text, never with an exponent. -/
def positional (d : DecimalForm) : String :=
  d.signText ++ d.positionalBody

/-- The positional text with a point kept: `.0` is added where no point stands. -/
def positionalWithPoint (d : DecimalForm) : String :=
  let t := d.positionalBody
  d.signText ++ (if t.toList.contains '.' then t else t ++ ".0")

/-- The compact text: positional within seventeen places of the point, else with an exponent
that always carries its sign. -/
def compact (d : DecimalForm) : String :=
  if d.digits = 0 then d.signText ++ "0.0"
  else
    let ds := Decimal.digits d.digits
    let len : Int := ds.length
    let k := d.exponent
    let kk := len + k
    let expText (x : Int) : String :=
      if x < 0 then "-" ++ Decimal.text x.natAbs else "+" ++ Decimal.text x.toNat
    let body : String :=
      if 0 ≤ k ∧ kk ≤ 16 then
        String.ofList (ds ++ List.replicate k.toNat '0') ++ ".0"
      else if 0 < kk ∧ kk ≤ 16 then
        String.ofList (ds.take kk.toNat ++ ['.'] ++ ds.drop kk.toNat)
      else if -5 < kk ∧ kk ≤ 0 then
        String.ofList (['0', '.'] ++ List.replicate (-kk).toNat '0' ++ ds)
      else if ds.length = 1 then
        String.ofList ds ++ "e" ++ expText (kk - 1)
      else
        String.ofList (ds.take 1 ++ ['.'] ++ ds.drop 1) ++ "e" ++ expText (kk - 1)
    d.signText ++ body

end DecimalForm

namespace Binary64

/-- The text a value is quoted with in an error: positional with a point, or `inf`, `-inf`, `NaN`. -/
def quoted : Binary64 → String
  | infinity false => "inf"
  | infinity true => "-inf"
  | nan => "NaN"
  | x => match x.toDecimal? with
    | some d => d.positionalWithPoint
    | none => "NaN"

/-- The text a finite value is written with in a JSON document; others are `null`. -/
def jsonText (x : Binary64) : String :=
  match x.toDecimal? with
  | some d => d.compact
  | none => "null"

end Binary64

end PartCache
