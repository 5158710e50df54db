import PartCache.Error
import PartCache.Text.Blank

/-!
# Byte ranges

A byte range is an inclusive span `first..=last` of an object's body, with
`first ≤ last` carried by the type; it covers the parts from `first / partSize`
to `last / partSize`, part numbers being 32-bit words.  A content range says
where a body sits in its object: its start, its length and the object's size, as
an HTTP `Content-Range: bytes first-last/size` header writes it.

Offsets and sizes are 64-bit words and wrap as such.
-/

namespace PartCache

set_option autoImplicit false

/-- An inclusive span of bytes, its ends in order. -/
structure ByteRange where
  first : UInt64
  last : UInt64
  first_le_last : first ≤ last

namespace ByteRange

/-- The span `first..=last`, or the error that its ends are out of order. -/
def make (first last : UInt64) : Except CacheError ByteRange :=
  if h : first ≤ last then .ok ⟨first, last, h⟩
  else .error (.inconsistentState ("range start (" ++ Decimal.text first.toNat ++
    ") must be <= end (" ++ Decimal.text last.toNat ++ ")"))

/-- The number of bytes in the span. -/
def size (r : ByteRange) : UInt64 := r.last - r.first + 1

/-- The first and last part the span touches. -/
def partBounds (r : ByteRange) (partSize : UInt64) : UInt32 × UInt32 :=
  ((r.first / partSize).toUInt32, (r.last / partSize).toUInt32)

/-- The value of an HTTP `Range` header asking for the span. -/
def header (r : ByteRange) : String :=
  "bytes=" ++ Decimal.text r.first.toNat ++ "-" ++ Decimal.text r.last.toNat

theorem make_ok_iff (first last : UInt64) :
    (∃ r, make first last = .ok r) ↔ first ≤ last := by
  unfold make
  constructor
  · intro ⟨r, h⟩
    split at h
    · assumption
    · cases h
  · intro h
    exact ⟨⟨first, last, h⟩, by simp [h]⟩

theorem size_toNat (r : ByteRange) : r.size.toNat = (r.last.toNat - r.first.toNat + 1) % UInt64.size := by
  have h := r.first_le_last
  simp only [size, UInt64.toNat_add, UInt64.toNat_sub_of_le _ _ h, UInt64.reduceToNat]

end ByteRange

/-- Where a body sits in its object: its first byte, its length and the object's size. -/
structure ContentRange where
  start : UInt64
  length : UInt64
  objectSize : UInt64
  deriving DecidableEq, Repr

namespace ContentRange

/-- A body that is a whole object. -/
def full (objectSize : UInt64) : ContentRange := ⟨0, objectSize, objectSize⟩

/-- Reads a 64-bit unsigned decimal between blanks. -/
def readWord? (cs : List Char) : Option UInt64 :=
  (Decimal.readUnsigned? UInt64.size (Text.trimChars cs)).map UInt64.ofNat

/-- The parts of `bytes first-last/size` after the prefix, split at the first `/` and `-`. -/
def splitSpec (cs : List Char) : Option (List Char × List Char × List Char) :=
  match cs.splitOn '/' with
  | [] => none
  | [_] => none
  | span :: rest =>
    let total := List.intercalate ['/'] rest
    match span.splitOn '-' with
    | [] => none
    | [_] => none
    | a :: brest => some (a, List.intercalate ['-'] brest, total)

/-- The numbers of a header `bytes first-last/size`, when it reads. -/
def fields? (header : String) : Option (UInt64 × UInt64 × UInt64) := do
  let cs := Text.trimChars header.toList
  let rest ← if cs.take 6 == "bytes ".toList then some (cs.drop 6) else none
  let (a, b, t) ← splitSpec rest
  let first ← readWord? a
  let last ← readWord? b
  let size ← readWord? t
  pure (first, last, size)

/-- Reads a `Content-Range` header: `bytes first-last/size` with `first ≤ last < size`. -/
def ofHeader (header : String) : Except CacheError ContentRange :=
  let fail := CacheError.upstreamFetch ("invalid Content-Range: " ++ header)
  match fields? header with
  | some (first, last, size) =>
    if first ≤ last ∧ last < size then .ok ⟨first, last - first + 1, size⟩ else .error fail
  | none => .error fail

/-- A header that reads gives a range that starts no later than it ends, inside its object. -/
theorem ofHeader_ok_bounds (header : String) (c : ContentRange) (h : ofHeader header = .ok c) :
    ∃ first last, first ≤ last ∧ last < c.objectSize ∧ c.start = first ∧
      c.length = last - first + 1 := by
  unfold ofHeader at h
  split at h
  · rename_i first last size _
    split at h
    · rename_i hb
      cases h
      exact ⟨first, last, hb.1, hb.2, rfl, rfl⟩
    · cases h
  · cases h

end ContentRange

end PartCache
