import PartCache.Text.CombiningClass
import PartCache.Text.Decomposition

/-!
# Normalization Form C

Two texts are canonically equivalent when they stand for the same characters,
one perhaps with precomposed letters where the other has a base and combining
marks.  Normalization Form C picks one text of each class, the composed one:

1. every code point is replaced by its full canonical decomposition;
2. each run of marks after a starter is put in order of combining class, marks
   of equal class keeping their order;
3. going left to right, a mark or starter is joined to the last starter before
   it when the two have a primary composite and nothing between them blocks it
   (a mark of the same or a higher class, or, for a starter, anything at all).

Hangul syllables decompose into their jamo and compose back by arithmetic.
-/

namespace PartCache.Text

set_option autoImplicit false

/-! ## Hangul syllables -/

/-- The first precomposed Hangul syllable. -/
def syllableBase : Nat := 0xAC00

/-- The first leading consonant jamo. -/
def leadBase : Nat := 0x1100

/-- The first vowel jamo. -/
def vowelBase : Nat := 0x1161

/-- The code point before the first trailing consonant jamo. -/
def trailBase : Nat := 0x11A7

/-- The numbers of leading consonants, vowels and trailing consonants (with none). -/
def leadCount : Nat := 19
def vowelCount : Nat := 21
def trailCount : Nat := 28

/-- Whether a code point is a precomposed Hangul syllable. -/
def isSyllable (n : Nat) : Bool :=
  syllableBase ≤ n && n < syllableBase + leadCount * vowelCount * trailCount

/-- The jamo a precomposed Hangul syllable is made of. -/
def syllableJamo (n : Nat) : List Nat :=
  let s := n - syllableBase
  let lead := leadBase + s / (vowelCount * trailCount)
  let vowel := vowelBase + s % (vowelCount * trailCount) / trailCount
  let trail := trailBase + s % trailCount
  if trail = trailBase then [lead, vowel] else [lead, vowel, trail]

/-! ## Decomposition and ordering -/

/-- The full canonical decomposition of a code point, decompositions applied `depth` levels
deep; three levels are the most any character needs. -/
def fullDecomposition : Nat → Nat → List Nat
  | 0, n => [n]
  | depth + 1, n =>
    if isSyllable n then syllableJamo n
    else
      match decomposition n with
      | some parts => parts.flatMap (fullDecomposition depth)
      | none => [n]

/-- A run of marks in order of combining class, marks of equal class keeping their order. -/
def sortMarks (run : List Nat) : List Nat :=
  run.mergeSort fun a b => combiningClass a ≤ combiningClass b

/-- The text with each run of marks in order of combining class; `run` holds the marks
met since the last starter. -/
def canonicalOrderFrom : List Nat → List Nat → List Nat
  | [], run => sortMarks run
  | c :: rest, run =>
    if combiningClass c = 0 then sortMarks run ++ c :: canonicalOrderFrom rest []
    else canonicalOrderFrom rest (run ++ [c])

/-- The text with each run of marks in order of combining class. -/
def canonicalOrder (cs : List Nat) : List Nat :=
  canonicalOrderFrom cs []

theorem canonicalOrderFrom_perm (cs run : List Nat) :
    (canonicalOrderFrom cs run).Perm (run ++ cs) := by
  induction cs generalizing run with
  | nil => simpa [canonicalOrderFrom, sortMarks] using List.mergeSort_perm run _
  | cons c rest ih =>
    unfold canonicalOrderFrom
    split
    · have hs : (sortMarks run).Perm run := List.mergeSort_perm run _
      exact List.Perm.append hs (List.Perm.cons c (by simpa using ih []))
    · simpa using ih (run ++ [c])

theorem canonicalOrder_perm (cs : List Nat) : (canonicalOrder cs).Perm cs := by
  simpa [canonicalOrder] using canonicalOrderFrom_perm cs []

/-! ## Composition -/

/-- The primary composites, keyed by their two parts as `first * 0x110000 + second` and
sorted by key: the two-part canonical decompositions not excluded from composition. -/
def compositions : Array (Nat × Nat) :=
  let pairs := canonicalDecompositions.toList.flatMap fun chunk =>
    chunk.toList.filterMap fun (c, parts) =>
      match parts with
      | [a, b] => if inRangeTable compositionExclusions c then none else some (a * 0x110000 + b, c)
      | _ => none
  (pairs.mergeSort fun x y => x.1 ≤ y.1).toArray

/-- The primary composite of two code points, if they have one. -/
def composePair (a b : Nat) : Option Nat :=
  if leadBase ≤ a && a < leadBase + leadCount && vowelBase ≤ b && b < vowelBase + vowelCount then
    some (syllableBase + ((a - leadBase) * vowelCount + (b - vowelBase)) * trailCount)
  else if isSyllable a && (a - syllableBase) % trailCount = 0 && trailBase < b &&
      b < trailBase + trailCount then
    some (a + (b - trailBase))
  else exactValue compositions (a * 0x110000 + b)

/-- Composition so far: the code points kept, the index of the last starter, and the class
of the last code point kept (256 while the text opens with marks, which nothing before
them can take). -/
structure Composer where
  kept : Array Nat
  starter : Option Nat
  lastClass : Nat

/-- Takes one more code point: it joins the last starter when they have a primary composite
and nothing between them blocks it, and is kept otherwise. -/
def Composer.push (st : Composer) (c : Nat) : Composer :=
  let cc := combiningClass c
  let keep : Composer :=
    { kept := st.kept.push c,
      starter := if cc = 0 then some st.kept.size else st.starter,
      lastClass := cc }
  match st.starter with
  | some i =>
    match st.kept[i]?.bind (composePair · c) with
    | some composite =>
      if st.lastClass < cc || st.lastClass = 0 then
        { st with kept := st.kept.setIfInBounds i composite }
      else keep
    | none => keep
  | none => keep

/-- Composes a decomposed and ordered text. -/
def compose : List Nat → List Nat
  | [] => []
  | c :: rest =>
    let first : Composer :=
      if combiningClass c = 0 then ⟨#[c], some 0, 0⟩ else ⟨#[c], none, 256⟩
    (rest.foldl Composer.push first).kept.toList

/-- The Normalization Form C of a text of code points. -/
def nfc (cs : List Nat) : List Nat :=
  compose (canonicalOrder (cs.flatMap (fullDecomposition 3)))

end PartCache.Text
