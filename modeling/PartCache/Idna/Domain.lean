import PartCache.Idna.Label
import PartCache.Idna.Punycode

/-!
# Domain names to ASCII

A host name that is not an IP address may be written in any script; before it is
used it is brought to the ASCII form the domain name system knows:

1. every code point is mapped (dropped, kept or replaced) and a disallowed one
   fails the whole name;
2. the text is put in Normalization Form C and split into labels at full stops;
3. a label with the ACE prefix `xn--` must be ASCII and its Punycode must decode,
   to a label that is not empty and not ASCII only; it is checked in its decoded
   form but written as it came;
4. every label must be valid, under the bidi rule too when any label holds
   right-to-left text;
5. a label that is not ASCII is written as `xn--` and its Punycode.

The result joins the labels with full stops again, and an empty result fails.
Hyphens are not checked, and neither are the lengths of labels or of the name.
-/

namespace PartCache.Idna

open Text

set_option autoImplicit false

/-- Maps every code point of a name, or fails at a disallowed one. -/
def mapAll : List Nat → Option (List Nat)
  | [] => some []
  | c :: rest => do
    let tail ← mapAll rest
    match mapCodePoint c with
    | .keep => pure (c :: tail)
    | .drop => pure tail
    | .replace cs => pure (cs ++ tail)
    | .refuse => none

/-- The full stop, which separates labels. -/
def fullStop : Nat := 0x2E

/-- Splits a name into its labels at full stops; there is always one label more than
there are full stops. -/
def splitLabels : List Nat → List (List Nat)
  | [] => [[]]
  | c :: rest =>
    match splitLabels rest with
    | label :: labels => if c = fullStop then [] :: label :: labels else (c :: label) :: labels
    | [] => [[c]]

/-- A label as read: the text that is checked, and for a label that came with the ACE
prefix, the form it came in, which is the one written. -/
structure ReadLabel where
  text : List Nat
  written : Option (List Nat)

/-- Reads a label: one with the ACE prefix is decoded, and must be ASCII before and hold
something beyond ASCII after. -/
def readLabel (label : List Nat) : Option ReadLabel :=
  if hasAcePrefix label then
    if label.any (· ≥ 0x80) then none
    else
      match Punycode.decode ((label.drop 4).map Char.ofNat) with
      | some text => if text.all (· < 0x80) then none else some ⟨text, some label⟩
      | none => none
  else some ⟨label, none⟩

/-- The ASCII form of a read label: the form it came in, the label itself if ASCII, or the
ACE prefix and its Punycode. -/
def ReadLabel.ascii (l : ReadLabel) : Option (List Nat) :=
  match l.written with
  | some w => some w
  | none =>
    if l.text.all (· < 0x80) then some l.text
    else (Punycode.encode l.text).map fun cs => acePrefix ++ cs.map Char.toNat

/-- The ASCII form of a name given as code points, if it has one. -/
def toAscii (name : List Nat) : Option (List Nat) := do
  let mapped ← mapAll name
  let labels ← (splitLabels (nfc mapped)).mapM readLabel
  let bidiDomain := labels.any fun l => l.text.any isRightToLeft
  let written ← labels.mapM fun l => if isValidLabel bidiDomain l.text then l.ascii else none
  let out := [fullStop].intercalate written
  if out.isEmpty then none else pure out

/-- The ASCII form of a domain name, if it has one. -/
def domainToAscii (name : String) : Option String :=
  (toAscii (name.toList.map Char.toNat)).map fun cs => String.ofList (cs.map Char.ofNat)

end PartCache.Idna
