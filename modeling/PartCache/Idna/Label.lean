import PartCache.Text.BidiClass
import PartCache.Text.CombiningClass
import PartCache.Text.JoiningType
import PartCache.Text.Mark
import PartCache.Text.Normalization
import PartCache.Idna.Mapping

/-!
# Valid labels

After mapping and normalization, a domain name is split into labels, and every
label must be valid before it is written in ASCII.  A valid label

* is in Normalization Form C;
* does not begin with the ACE prefix `xn--` (a label that did was decoded first);
* holds no full stop and does not begin with a combining mark;
* holds only code points that are valid, or deviation characters;
* uses the joiners only in context: the zero width non-joiner after a virama, or
  between a left- or dual-joining and a right- or dual-joining letter with only
  transparent ones around it; the zero width joiner only after a virama;
* in a domain that holds right-to-left text, keeps to the bidi rule: a label
  starts with a left-to-right or a right-to-left letter, holds only the classes
  that direction allows, and ends (after its nonspacing marks) with a letter or
  number of that direction; a right-to-left label does not mix European and
  Arabic-Indic digits.

Hyphens may stand anywhere, and the empty label is valid.
-/

namespace PartCache.Idna

open Text

set_option autoImplicit false

/-- The ACE prefix `xn--`. -/
def acePrefix : List Nat := [0x78, 0x6E, 0x2D, 0x2D]

/-- Whether a label begins with the ACE prefix. -/
def hasAcePrefix (label : List Nat) : Bool := label.take 4 == acePrefix

/-! ## Joiners -/

/-- The zero width non-joiner. -/
def zeroWidthNonJoiner : Nat := 0x200C

/-- The zero width joiner. -/
def zeroWidthJoiner : Nat := 0x200D

/-- Whether the code point just before, the head of the reversed prefix, is a virama. -/
def viramaBefore (before : List Nat) : Bool :=
  match before with
  | c :: _ => combiningClass c == viramaClass
  | [] => false

/-- Whether the first code point of `cs` that is not transparent has a joining type `ok`
accepts. -/
def joinsOn (ok : JoiningType → Bool) : List Nat → Bool
  | [] => false
  | c :: rest =>
    let t := joiningType c
    if t = .transparent then joinsOn ok rest else ok t

/-- Joining types that join on their left side, toward the next letter. -/
def joinsLeft (t : JoiningType) : Bool := t == .left || t == .dual

/-- Joining types that join on their right side, toward the letter before. -/
def joinsRight (t : JoiningType) : Bool := t == .right || t == .dual

/-- Whether every joiner of `after` stands in context; `before` is what precedes it,
reversed. -/
def joinersAllowedFrom (before : List Nat) : List Nat → Bool
  | [] => true
  | c :: after =>
    let here :=
      if c = zeroWidthNonJoiner then
        viramaBefore before || (joinsOn joinsLeft before && joinsOn joinsRight after)
      else if c = zeroWidthJoiner then viramaBefore before
      else true
    here && joinersAllowedFrom (c :: before) after

/-- Whether every joiner of a label stands in context. -/
def joinersAllowed (label : List Nat) : Bool := joinersAllowedFrom [] label

/-! ## The bidi rule -/

/-- Whether a code point makes a domain hold right-to-left text: a right-to-left letter
or an Arabic-Indic digit. -/
def isRightToLeft (n : Nat) : Bool :=
  let c := bidiClass n
  c == .r || c == .al || c == .an

/-- The classes a right-to-left label may hold. -/
def inRightToLeftLabel (c : BidiClass) : Bool :=
  c == .r || c == .al || c == .an || c == .en || c == .es || c == .cs || c == .et ||
    c == .on || c == .bn || c == .nsm

/-- The classes a left-to-right label may hold. -/
def inLeftToRightLabel (c : BidiClass) : Bool :=
  c == .l || c == .en || c == .es || c == .cs || c == .et || c == .on || c == .bn ||
    c == .nsm

/-- Whether a label keeps to the bidi rule. -/
def keepsBidiRule (label : List Nat) : Bool :=
  let classes := label.map bidiClass
  let last := (classes.filter (· != .nsm)).getLast?
  match classes with
  | [] => true
  | first :: _ =>
    if first == .r || first == .al then
      classes.all inRightToLeftLabel &&
        (last == some .r || last == some .al || last == some .en || last == some .an) &&
        !(classes.contains .en && classes.contains .an)
    else if first == .l then
      classes.all inLeftToRightLabel && (last == some .l || last == some .en)
    else false

/-! ## Validity -/

/-- Whether a label is valid; `bidiDomain` says whether the domain holds right-to-left
text, which puts every label under the bidi rule. -/
def isValidLabel (bidiDomain : Bool) (label : List Nat) : Bool :=
  match label with
  | [] => true
  | first :: _ =>
    nfc label == label && !hasAcePrefix label && !label.contains 0x2E && !isMark first &&
      label.all isValidInLabel && joinersAllowed label && (!bidiDomain || keepsBidiRule label)

end PartCache.Idna
