import PartCache.Error
import PartCache.Bytes
import PartCache.Number.Decimal

/-!
# Upstreams

An upstream serves byte ranges of objects by path: `fetch path first last`
answers the bytes from `first` to `last` inclusive, or an error.  A zone asks it
for the parts it does not hold.

`Upstream.memory` is an upstream that serves bodies held in memory.  It refuses
the paths it is told to refuse, has nothing for paths it holds no body for, and
otherwise answers the requested range cut to the body: nothing when the range
starts at or past the end.
-/

namespace PartCache

set_option autoImplicit false

/-- A source of object bytes by path and inclusive range. -/
structure Upstream where
  fetch : String → UInt64 → UInt64 → Except CacheError Bytes

/-- The bytes of a body from `first` to `last` inclusive, cut to the body. -/
def Bytes.slice (body : Bytes) (first last : Nat) : Bytes :=
  if first ≥ body.length then [] else (body.drop first).take (min last (body.length - 1) - first + 1)

namespace Upstream

/-- Serves the given bodies by path, refusing the paths in `refused`. -/
def memory (bodies : List (String × Bytes)) (refused : List String) : Upstream where
  fetch path first last :=
    if refused.contains path then .error (.upstreamFetch ("origin refused " ++ path))
    else match bodies.find? (·.1 == path) with
      | none => .error (.upstreamFetch ("origin has no " ++ path))
      | some (_, body) => .ok (Bytes.slice body first.toNat last.toNat)

theorem memory_length_le (bodies : List (String × Bytes)) (refused : List String)
    (path : String) (first last : UInt64) (data : Bytes)
    (h : (memory bodies refused).fetch path first last = .ok data) :
    data.length ≤ last.toNat - first.toNat + 1 := by
  simp only [memory] at h
  split at h
  · simp at h
  · split at h
    · simp at h
    · simp only [Except.ok.injEq] at h
      subst h
      unfold Bytes.slice
      split
      · simp
      · simp only [List.length_take, List.length_drop]
        omega

end Upstream

end PartCache
