/-!
# Punycode

Punycode writes a label of any code points with letters, digits and hyphens
only.  The ASCII code points come first, as they are, followed by a hyphen if
there were any; then the others are inserted one by one in order of code point,
each as a distance from the last insertion, written as a variable-length integer
of base-36 digits whose thresholds follow a bias that adapts to the distances
seen so far.

All arithmetic stays within 32 bits: a value that would pass them makes decoding
or encoding fail, and so does a decoded code point that is a surrogate or past
U+10FFFF.  Digits are read in either case and written in small letters.
-/

namespace PartCache.Idna.Punycode

set_option autoImplicit false

/-- The largest value of the 32-bit arithmetic. -/
def wordMax : Nat := 0xFFFFFFFF

/-- The digit of a value below 36: `a` to `z`, then `0` to `9`. -/
def digitChar (d : Nat) : Char :=
  if d < 26 then Char.ofNat (0x61 + d) else Char.ofNat (0x30 + d - 26)

/-- The value of a digit, letters of either case. -/
def digitValue (c : Char) : Option Nat :=
  if 'a' ≤ c && c ≤ 'z' then some (c.toNat - 0x61)
  else if 'A' ≤ c && c ≤ 'Z' then some (c.toNat - 0x41)
  else if '0' ≤ c && c ≤ '9' then some (c.toNat - 0x30 + 26)
  else none

theorem digitValue_digitChar (d : Nat) (h : d < 36) : digitValue (digitChar d) = some d := by
  have hall : ∀ e : Fin 36, digitValue (digitChar e.val) = some e.val := by decide
  exact hall ⟨d, h⟩

/-- The threshold of the digit at position `k` of an integer: between 1 and 26, shifted
by the bias. -/
def threshold (k bias : Nat) : Nat :=
  if k ≤ bias then 1 else if bias + 26 ≤ k then 26 else k - bias

/-- Divides a scaled distance by 35 until it is at most 455, counting 36 for each step. -/
def shrink (delta k : Nat) : Nat × Nat :=
  if 455 < delta then shrink (delta / 35) (k + 36) else (delta, k)
termination_by delta
decreasing_by omega

/-- The next bias, from the last distance, the number of code points now in the label, and
whether this was the first distance. -/
def adapt (delta count : Nat) (first : Bool) : Nat :=
  let d := if first then delta / 700 else delta / 2
  let (d, k) := shrink (d + d / count) 0
  k + 36 * d / (d + 38)

/-! ## Decoding -/

/-- Reads one variable-length integer onto `i`, with weight `w` for the digit at position
`k`: the new `i` and the rest of the input, or `none` when the input ends inside it, a
character is no digit, or a value passes 32 bits. -/
def readInteger (bias : Nat) : List Char → Nat → Nat → Nat → Option (Nat × List Char)
  | [], _, _, _ => none
  | c :: rest, k, w, i => do
    let d ← digitValue c
    let i := i + d * w
    if i > wordMax then none
    let t := threshold k bias
    if d < t then pure (i, rest)
    else
      let w := w * (36 - t)
      if w > wordMax then none
      readInteger bias rest (k + 36) w i

theorem readInteger_shorter (bias : Nat) :
    ∀ (cs : List Char) (k w i : Nat) (r : Nat × List Char),
      readInteger bias cs k w i = some r → r.2.length < cs.length
  | [], _, _, _, _, h => by simp [readInteger] at h
  | c :: rest, k, w, i, r, h => by
    unfold readInteger at h
    cases hd : digitValue c with
    | none => simp [hd] at h
    | some d =>
      simp only [hd, Option.bind_eq_bind, Option.bind_some] at h
      split at h
      · simp at h
      · split at h
        · simp only [Option.pure_def, Option.some.injEq] at h
          subst h
          simp
        · split at h
          · simp at h
          · have := readInteger_shorter bias rest _ _ _ r h
            simp only [List.length_cons]
            omega

/-- Inserts the code points the integers stand for, with the code point `n` and index `i`
reached, into the label decoded so far. -/
def insertAll (n i bias : Nat) (out : List Nat) (input : List Char) : Option (List Nat) :=
  match input with
  | [] => some out
  | c :: rest =>
    match _hread : readInteger bias (c :: rest) 36 1 i with
    | none => none
    | some (i', more) =>
      let count := out.length + 1
      let n' := n + i' / count
      if n' > wordMax || n' > 0x10FFFF || (0xD800 ≤ n' && n' ≤ 0xDFFF) then none
      else
        let pos := i' % count
        insertAll n' (pos + 1) (adapt (i' - i) count (i == 0)) (out.insertIdx pos n') more
termination_by input.length
decreasing_by
  have := readInteger_shorter bias (c :: rest) 36 1 i (i', more) _hread
  simpa using this

/-- Decodes a label written in Punycode, without its `xn--` prefix. The ASCII code points
stand before the last hyphen; with no hyphen, or one only at the start, there are none. -/
def decode (input : List Char) : Option (List Nat) :=
  let (basic, rest) : List Char × List Char :=
    match input.reverse.findIdx? (· == '-') with
    | some j =>
      let pos := input.length - 1 - j
      if pos = 0 then ([], input) else (input.take pos, input.drop (pos + 1))
    | none => ([], input)
  if basic.any (·.toNat ≥ 0x80) then none
  else insertAll 0x80 0 72 (basic.map Char.toNat) rest

/-! ## Encoding -/

/-- Writes a variable-length integer `q` from the digit at position `k` on; at most
`fuel` digits, more than a 32-bit value needs. -/
def writeInteger (bias : Nat) : Nat → Nat → Nat → List Char
  | 0, _, _ => []
  | fuel + 1, k, q =>
    let t := threshold k bias
    if q < t then [digitChar q]
    else digitChar (t + (q - t) % (36 - t)) :: writeInteger bias fuel (k + 36) ((q - t) / (36 - t))

/-- The encoder's state: the digits written, the distance so far, the bias, and how many
code points are handled. -/
structure Encoder where
  out : List Char
  delta : Nat
  bias : Nat
  handled : Nat

/-- Passes one code point of the label while inserting the code point `m`: a smaller one
counts one more step, and `m` itself writes the distance reached. -/
def Encoder.pass (basicCount m : Nat) (e : Encoder) (c : Nat) : Encoder :=
  if c < m then { e with delta := e.delta + 1 }
  else if c = m then
    { out := e.out ++ writeInteger e.bias 32 36 e.delta, delta := 0,
      bias := adapt e.delta (e.handled + 1) (e.handled == basicCount), handled := e.handled + 1 }
  else e

/-- Inserts the code points of `todo`, in increasing order, from the code point `n` on. -/
def encodeAll (label : List Nat) (basicCount : Nat) : List Nat → Nat → Encoder → Option Encoder
  | [], _, e => some e
  | m :: todo, n, e =>
    let e := { e with delta := e.delta + (m - n) * (e.handled + 1) }
    if e.delta > wordMax then none
    else
      let e := label.foldl (Encoder.pass basicCount m) e
      if e.delta + 1 > wordMax then none
      else encodeAll label basicCount todo (m + 1) { e with delta := e.delta + 1 }

/-- The distinct values of a list, in increasing order. -/
def distinctSorted (ns : List Nat) : List Nat :=
  (ns.mergeSort fun a b => a ≤ b).eraseDups

/-- Encodes a label in Punycode, without the `xn--` prefix. -/
def encode (label : List Nat) : Option (List Char) := do
  let basic := (label.filter (· < 0x80)).map Char.ofNat
  let start : Encoder := ⟨[], 0, 72, basic.length⟩
  let e ← encodeAll label basic.length (distinctSorted (label.filter (· ≥ 0x80))) 0x80 start
  pure (basic ++ (if basic.isEmpty then [] else ['-']) ++ e.out)

end PartCache.Idna.Punycode
