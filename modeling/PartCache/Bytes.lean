/-!
# Byte strings

Object bodies, part files and hashes are byte strings, kept as plain lists of
bytes so that lengths, slices and concatenation are the list operations.  This
module gives the lowercase hexadecimal form that every byte string is shown in,
its inverse, and the passage between text and its UTF-8 bytes.
-/

namespace PartCache

set_option autoImplicit false

/-- A byte string. -/
abbrev Bytes := List UInt8

namespace Bytes

/-! ## Hexadecimal digits -/

/-- The lowercase hexadecimal digit of a number below sixteen. -/
def hexDigit (n : Nat) : Char :=
  Char.ofNat (if n < 10 then 0x30 + n else 0x61 + n - 10)

/-- The value of a hexadecimal digit of either case. -/
def hexValue (c : Char) : Option Nat :=
  if '0' ≤ c ∧ c ≤ '9' then some (c.toNat - 0x30)
  else if 'a' ≤ c ∧ c ≤ 'f' then some (c.toNat - 0x61 + 10)
  else if 'A' ≤ c ∧ c ≤ 'F' then some (c.toNat - 0x41 + 10)
  else none

/-- The two lowercase digits of one byte, high digit first. -/
def byteDigits (b : UInt8) : List Char :=
  [hexDigit (b.toNat / 16), hexDigit (b.toNat % 16)]

/-- The lowercase hexadecimal form of a byte string, two digits a byte. -/
def hexChars (bs : Bytes) : List Char :=
  bs.flatMap byteDigits

/-- The lowercase hexadecimal form of a byte string as text. -/
def hex (bs : Bytes) : String :=
  String.ofList (hexChars bs)

/-- Reads pairs of hexadecimal digits back into bytes. -/
def ofHexChars? : List Char → Option Bytes
  | [] => some []
  | [_] => none
  | hi :: lo :: rest => do
    let h ← hexValue hi
    let l ← hexValue lo
    let tail ← ofHexChars? rest
    pure (UInt8.ofNat (h * 16 + l) :: tail)

/-- Reads a hexadecimal text back into bytes; an odd length or a non-digit fails. -/
def ofHex? (s : String) : Option Bytes :=
  ofHexChars? s.toList

/-! ## Text and its UTF-8 bytes -/

/-- The UTF-8 bytes of a text. -/
def ofString (s : String) : Bytes :=
  s.toUTF8.toList

/-- The text whose UTF-8 encoding these bytes are, if they are valid UTF-8. -/
def toString? (bs : Bytes) : Option String :=
  String.fromUTF8? ⟨bs.toArray⟩

/-- Whether a byte continues a UTF-8 sequence. -/
def isContinuation (b : UInt8) : Bool := 0x80 ≤ b && b < 0xC0

/-- How the bytes begin: with a well-formed UTF-8 sequence of the given length (`true`), or
with a malformed one (`false`) whose given length, at least one byte, is the longest start
that could still have begun a sequence. The lead byte fixes the length; after E0, ED, F0 and
F4 the second byte's range is narrowed so that overlong forms, surrogates and code points
past U+10FFFF are refused. -/
def leadingSequence : Bytes → Bool × Nat
  | [] => (false, 0)
  | a :: rest =>
    if a < 0x80 then (true, 1)
    else
      let (n, lo, hi) : Nat × UInt8 × UInt8 :=
        if a < 0xC2 then (0, 0, 0)
        else if a < 0xE0 then (2, 0x80, 0xBF)
        else if a == 0xE0 then (3, 0xA0, 0xBF)
        else if a == 0xED then (3, 0x80, 0x9F)
        else if a < 0xF0 then (3, 0x80, 0xBF)
        else if a == 0xF0 then (4, 0x90, 0xBF)
        else if a < 0xF4 then (4, 0x80, 0xBF)
        else if a == 0xF4 then (4, 0x80, 0x8F)
        else (0, 0, 0)
      match rest with
      | b :: more =>
        if n ≠ 0 && lo ≤ b && b ≤ hi then
          let k := ((more.take (n - 2)).takeWhile isContinuation).length
          if k = n - 2 then (true, n) else (false, k + 2)
        else (false, 1)
      | [] => (false, 1)

/-- The length of the longest prefix of the bytes that is valid UTF-8: where the first
malformed sequence starts, or the whole length. -/
def validPrefix (bs : Bytes) : Nat :=
  go bs.length bs 0
where
  /-- Passes over well-formed sequences, counting their bytes onto `k`. -/
  go : Nat → Bytes → Nat → Nat
    | 0, _, k => k
    | fuel + 1, bs, k =>
      match leadingSequence bs with
      | (true, n) => go fuel (bs.drop n) (k + n)
      | (false, _) => k

/-- The text of the bytes with each malformed sequence, taken as long as it could still have
begun a sequence, replaced by one U+FFFD. -/
def toStringLossy (bs : Bytes) : String :=
  String.ofList (go bs.length bs)
where
  /-- The characters of the bytes; each step takes at least one byte. -/
  go : Nat → Bytes → List Char
    | 0, _ => []
    | _ + 1, [] => []
    | fuel + 1, bs@(_ :: _) =>
      match leadingSequence bs with
      | (true, n) => ((toString? (bs.take n)).getD "").toList ++ go fuel (bs.drop n)
      | (false, n) => '\uFFFD' :: go fuel (bs.drop n)

/-! ## Lemmas -/

theorem hexValue_hexDigit (n : Nat) (h : n < 16) : hexValue (hexDigit n) = some n := by
  match n, h with
  | 0, _ | 1, _ | 2, _ | 3, _ | 4, _ | 5, _ | 6, _ | 7, _ | 8, _ | 9, _ | 10, _ | 11, _
  | 12, _ | 13, _ | 14, _ | 15, _ => decide
  | _ + 16, h => exact absurd h (by omega)

theorem ofHexChars_hexChars (bs : Bytes) : ofHexChars? (hexChars bs) = some bs := by
  induction bs with
  | nil => rfl
  | cons b rest ih =>
    have hb : b.toNat < 256 := UInt8.toNat_lt_size b
    have hhi : b.toNat / 16 < 16 := by omega
    have hlo : b.toNat % 16 < 16 := by omega
    have hval : UInt8.ofNat (b.toNat / 16) * 16 + UInt8.ofNat (b.toNat % 16) = b := by
      apply UInt8.toNat_inj.mp
      simp [UInt8.toNat_add, UInt8.toNat_mul, UInt8.toNat_ofNat']
      omega
    simp only [hexChars, List.flatMap_cons, byteDigits, List.cons_append, List.nil_append]
    simp only [hexChars] at ih
    simp [ofHexChars?, hexValue_hexDigit _ hhi, hexValue_hexDigit _ hlo, ih, hval]

/-- The hexadecimal form reads back to the bytes it was written from. -/
theorem ofHex_hex (bs : Bytes) : ofHex? (hex bs) = some bs := by
  simp [ofHex?, hex, ofHexChars_hexChars]

theorem length_hexChars (bs : Bytes) : (hexChars bs).length = 2 * bs.length := by
  induction bs with
  | nil => rfl
  | cons b rest ih =>
    simp only [hexChars, List.flatMap_cons, List.length_append, byteDigits, List.length_cons,
      List.length_nil] at *
    omega

end Bytes

end PartCache
