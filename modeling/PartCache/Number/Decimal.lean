/-!
# Decimal integers in text

Part files are named by their number written in decimal with at least six
digits, and several readers accept a decimal integer with an optional sign.
This module holds both directions: the zero-padded decimal text of a number,
and readers of unsigned and signed decimal text within a bound.
-/

namespace PartCache.Decimal

set_option autoImplicit false

/-- The decimal digits of a number, most significant first. -/
def digits (n : Nat) : List Char :=
  (Nat.toDigits 10 n)

/-- The decimal text of a number. -/
def text (n : Nat) : String :=
  String.ofList (digits n)

/-- The decimal digits of a number, padded on the left with zeros to `width` digits. -/
def paddedDigits (width n : Nat) : List Char :=
  List.replicate (width - (digits n).length) '0' ++ digits n

/-- The decimal text of a number, padded on the left with zeros to `width` digits. -/
def padded (width n : Nat) : String :=
  String.ofList (paddedDigits width n)

/-- The value of a decimal digit. -/
def digitValue (c : Char) : Nat := c.toNat - '0'.toNat

/-- The value of a nonempty run of ASCII digits, leading zeros allowed. -/
def digitsValue? (cs : List Char) : Option Nat :=
  if cs.isEmpty then none
  else if cs.all Char.isDigit then some (cs.foldl (fun acc c => 10 * acc + digitValue c) 0)
  else none

/-- Reads an unsigned decimal below `bound`: an optional `+` and at least one digit. -/
def readUnsigned? (bound : Nat) (cs : List Char) : Option Nat :=
  let body := match cs with
    | '+' :: rest => rest
    | _ => cs
  match digitsValue? body with
  | some v => if v < bound then some v else none
  | none => none

/-- Reads a signed decimal in `[-bound, bound)`: an optional sign and at least one digit. -/
def readSigned? (bound : Nat) (cs : List Char) : Option Int :=
  match cs with
  | '-' :: rest =>
    match digitsValue? rest with
    | some v => if v ≤ bound then some (-(v : Int)) else none
    | none => none
  | _ => (readUnsigned? bound cs).map Int.ofNat

/-! ## Lemmas -/

theorem digits_all_isDigit (n : Nat) : (digits n).all Char.isDigit = true := by
  simp only [digits, List.all_eq_true]
  intro c hc
  have h := Nat.isDigit_of_mem_toDigits (by decide) (by decide) hc
  exact h

theorem length_paddedDigits_ge (width n : Nat) : width ≤ (paddedDigits width n).length := by
  simp only [paddedDigits, List.length_append, List.length_replicate]
  omega

end PartCache.Decimal
