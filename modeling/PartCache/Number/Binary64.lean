import PartCache.Number.Decimal

/-!
# Binary64 values by exact arithmetic

A few numbers cross this library as IEEE 754 binary64 values: the hit ratio of a
zone, and the floating point numbers that the configuration and metadata readers
meet where they expect integers, which their error texts quote.  Such a value is
kept here by its sign, an integer mantissa and a power of two, and is made by
rounding an exact ratio of natural numbers to the nearest binary64 value, a tie
going to the even mantissa.
-/

namespace PartCache

set_option autoImplicit false

/-- A binary64 value: `finite s m e` is `(-1) ^ s * m * 2 ^ e`. -/
inductive Binary64 where
  | finite (negative : Bool) (mantissa : Nat) (exponent : Int)
  | infinity (negative : Bool)
  | nan
  deriving Repr, Inhabited, DecidableEq

namespace Binary64

/-- The smallest exponent of a binary64 value, that of the subnormal numbers. -/
def minExponent : Int := -1074

/-- The largest exponent a finite binary64 value with a 53-bit mantissa has. -/
def maxExponent : Int := 971

/-- Positive zero. -/
def zero : Binary64 := finite false 0 minExponent

/-- `a * 2 ^ k` compared with `b * 2 ^ l`, exactly. -/
def comparePow2 (a : Nat) (k : Int) (b : Nat) (l : Int) : Ordering :=
  compare (a * Nat.pow 2 (k - l).toNat) (b * Nat.pow 2 (l - k).toNat)

/-- The floor of the base-two logarithm of `p / q`, for positive `p` and `q`. -/
def floorLog2 (p q : Nat) : Int :=
  let guess : Int := (Nat.log2 p : Int) - (Nat.log2 q : Int)
  -- `p / q` lies in `[2 ^ (guess - 1), 2 ^ (guess + 1))`
  if comparePow2 p 0 q guess == .lt then guess - 1 else guess

/-- `n / d` rounded to the nearest natural number, a tie going to the even one. -/
def roundHalfEven (n d : Nat) : Nat :=
  let quotient := n / d
  let twice := 2 * (n % d)
  if twice > d ∨ (twice = d ∧ quotient % 2 = 1) then quotient + 1 else quotient

/-- The binary64 value nearest to `p / q`, with the given sign; `q` is positive. -/
def ofRatio (negative : Bool) (p q : Nat) : Binary64 :=
  if p = 0 then finite negative 0 minExponent
  else
    let e := max (floorLog2 p q - 52) minExponent
    let m := roundHalfEven (p * Nat.pow 2 (-e).toNat) (q * Nat.pow 2 e.toNat)
    let (m, e) := if m = Nat.pow 2 53 then (Nat.pow 2 52, e + 1) else (m, e)
    if e > maxExponent then infinity negative else finite negative m e

/-- The binary64 value nearest to `digits * 10 ^ exponent`, with the given sign. -/
def ofDecimal (negative : Bool) (digits : Nat) (exponent : Int) : Binary64 :=
  let width : Int := (Decimal.digits digits).length
  if digits = 0 then finite negative 0 minExponent
  -- at least `10 ^ 310`, beyond the largest finite value
  else if exponent + width > 310 then infinity negative
  -- below `10 ^ (-330)`, nearer to zero than to the least subnormal value
  else if exponent + width < -330 then finite negative 0 minExponent
  else if exponent ≥ 0 then ofRatio negative (digits * Nat.pow 10 exponent.toNat) 1
  else ofRatio negative digits (Nat.pow 10 (-exponent).toNat)

/-- Whether the value is finite. -/
def isFinite : Binary64 → Bool
  | finite .. => true
  | _ => false

/-- The quotient of two natural numbers as the nearest binary64 value, `0` over `0` aside. -/
def ratio (n d : Nat) : Binary64 :=
  if d = 0 then zero else ofRatio false n d

/-- The value with its sign turned. -/
def negate : Binary64 → Binary64
  | finite s m e => finite (!s) m e
  | infinity s => infinity (!s)
  | nan => nan

/-- The binary64 value nearest to `n * 2 ^ k`, with the given sign. -/
def scaled (negative : Bool) (n : Nat) (k : Int) : Binary64 :=
  if k ≥ 0 then ofRatio negative (n * Nat.pow 2 k.toNat) 1
  else ofRatio negative n (Nat.pow 2 (-k).toNat)

/-- The product of two values, rounded to the nearest, a tie going to the even mantissa. -/
def mul : Binary64 → Binary64 → Binary64
  | finite s m e, finite t n f => scaled (s != t) (m * n) (e + f)
  | infinity s, finite t n _ | finite t n _, infinity s => if n = 0 then nan else infinity (s != t)
  | infinity s, infinity t => infinity (s != t)
  | _, _ => nan

/-- The quotient of two values, rounded to the nearest, a tie going to the even mantissa. -/
def div : Binary64 → Binary64 → Binary64
  | finite s m e, finite t n f =>
    if n = 0 then (if m = 0 then nan else infinity (s != t))
    else ofRatio (s != t) (m * Nat.pow 2 (e - f).toNat) (n * Nat.pow 2 (f - e).toNat)
  | finite s _ _, infinity t => finite (s != t) 0 minExponent
  | infinity s, finite t _ _ => infinity (s != t)
  | _, _ => nan

/-- Whether the value is a zero of either sign. -/
def isZero : Binary64 → Bool
  | finite _ 0 _ => true
  | _ => false

/-- The binary64 value nearest to ten to the `k`. -/
def tenPow (k : Nat) : Binary64 := ofDecimal false 1 k

/-- The value of `significand * 10 ^ exponent` computed in binary64 arithmetic: the
significand rounded once, then multiplied or divided by the binary64 value of the power
of ten, whose exponent is at most 308; a smaller exponent is first brought up by dividing
by `10 ^ 308`, unless the value is already zero.  A product too large is `none`, and so is
any non-zero value with an exponent above 308.  Two divisions take any significand below
`2 ^ 64` to zero, so four rounds are always enough. -/
def scaleDecimal (significand : Nat) (exponent : Int) : Option Binary64 :=
  go 4 (ofRatio false significand 1) exponent
where
  /-- One round of the scaling, with the rounds left. -/
  go : Nat → Binary64 → Int → Option Binary64
    | 0, x, _ => some x
    | fuel + 1, x, e =>
      if e.natAbs ≤ 308 then
        if e ≥ 0 then
          let y := x.mul (tenPow e.toNat)
          if y.isFinite then some y else none
        else some (x.div (tenPow e.natAbs))
      else if x.isZero then some x
      else if e ≥ 0 then none
      else go fuel (x.div (tenPow 308)) (e + 308)

end Binary64

end PartCache
