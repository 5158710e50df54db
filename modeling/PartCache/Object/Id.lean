import PartCache.Digest.Sha1

/-!
# Object identities and part indexes

An object is named by a cache key, the namespace it is cached under, and a path.
Its digest, the SHA-1 of the key's bytes followed by the path's bytes, is where
it is stored on disk.  Two identities are the same exactly when key and path are;
the digest alone does not tell them apart (`ab` + `c` and `a` + `bc` share it).
Identities are ordered by digest bytes first, then key, then path.

A part index is an identity and the number of one fixed-size part of the body,
ordered by identity and then by part number.
-/

namespace PartCache

set_option autoImplicit false

/-- The identity of a cached object. -/
structure ObjectId where
  cacheKey : String
  path : String
  deriving DecidableEq, Repr, Inhabited, Hashable

/-- One fixed-size part of an object. -/
structure PartIndex where
  object : ObjectId
  part : UInt32
  deriving DecidableEq, Repr, Inhabited, Hashable

namespace ObjectId

/-- The SHA-1 digest of the key's bytes followed by the path's bytes. -/
def digest (id : ObjectId) : Bytes :=
  (Sha1.digest (Bytes.ofString id.cacheKey ++ Bytes.ofString id.path)).bytes

/-- The lowercase hexadecimal digest, as used for directory names. -/
def digestHex (id : ObjectId) : String := Bytes.hex id.digest

/-- The text `key:path`. -/
def display (id : ObjectId) : String := id.cacheKey ++ ":" ++ id.path

/-- The text `key:path (digest)`. -/
def debugText (id : ObjectId) : String := id.display ++ " (" ++ id.digestHex ++ ")"

/-- Lexicographic comparison of byte strings. -/
def compareBytes : Bytes → Bytes → Ordering
  | [], [] => .eq
  | [], _ :: _ => .lt
  | _ :: _, [] => .gt
  | a :: as, b :: bs => match compare a b with
    | .eq => compareBytes as bs
    | o => o

/-- Identities ordered by digest, then cache key, then path. -/
def order (a b : ObjectId) : Ordering :=
  (compareBytes a.digest b.digest).then ((compare a.cacheKey b.cacheKey).then
    (compare a.path b.path))

theorem digest_length (id : ObjectId) : id.digest.length = 20 :=
  (Sha1.digest _).length_bytes

theorem compareBytes_self (a : Bytes) : compareBytes a a = .eq := by
  induction a with
  | nil => rfl
  | cons x rest ih => simp [compareBytes, ih]

theorem order_self (a : ObjectId) : order a a = .eq := by
  simp [order, compareBytes_self, Ordering.then]

theorem order_eq_iff (a b : ObjectId) : order a b = .eq ↔ a = b := by
  constructor
  · intro h
    simp only [order, Ordering.then] at h
    split at h
    · split at h
      · rename_i h2
        cases a; cases b
        simp only [ObjectId.mk.injEq]
        exact ⟨Std.LawfulEqCmp.eq_of_compare h2, Std.LawfulEqCmp.eq_of_compare h⟩
      · simp_all
    · simp_all
  · intro h
    subst h
    exact order_self a

end ObjectId

namespace PartIndex

/-- The text `key:path#part`. -/
def display (i : PartIndex) : String :=
  i.object.display ++ "#" ++ toString i.part.toNat

/-- Part indexes ordered by identity, then part number. -/
def order (a b : PartIndex) : Ordering :=
  (ObjectId.order a.object b.object).then (compare a.part b.part)

end PartIndex

end PartCache
