import PartCache.Object.Id
import PartCache.Range

/-!
# Object metadata and the parts of a body

The metadata of a cached response records its identity, when it was received,
its status, the size of its body, its headers and when it goes stale.  The body
is cut into parts of the zone's part size: part `p` covers the bytes from
`p * partSize` up to the next boundary or the end of the body, whichever comes
first, and a part that starts at or beyond the end does not exist.

Headers are a map from names to lists of values, kept sorted by name.
-/

namespace PartCache

set_option autoImplicit false

/-- Header names with their values, sorted by name, each name once. -/
abbrev Headers := List (String × List String)

namespace Headers

/-- Sets the values of a name, keeping names sorted; a later value replaces an earlier one. -/
def insert (name : String) (values : List String) : Headers → Headers
  | [] => [(name, values)]
  | (k, v) :: rest =>
    if name < k then (name, values) :: (k, v) :: rest
    else if name = k then (name, values) :: rest
    else (k, v) :: insert name values rest

end Headers

/-- What is known about a cached response. -/
structure ObjectMetadata where
  id : ObjectId
  /-- Seconds since the epoch when the response was received. -/
  responseTimestamp : Int
  statusCode : Nat
  /-- The size of the whole body in bytes. -/
  size : UInt64
  headers : Headers
  /-- Seconds since the epoch after which the response is stale. -/
  expiresAt : Int
  deriving Inhabited

namespace ObjectMetadata

/-- Whether the response is stale at the instant `now`. -/
def isExpired (m : ObjectMetadata) (now : Int) : Bool := m.expiresAt ≤ now

/-- The number of parts of the body, as a 32-bit word. -/
def partCount (m : ObjectMetadata) (partSize : UInt64) : UInt32 :=
  if m.size = 0 then 0 else ((m.size + partSize - 1) / partSize).toUInt32

/-- The bytes that part `p` covers, or the error that it starts beyond the body. -/
def partRange (m : ObjectMetadata) (p : UInt32) (partSize : UInt64) :
    Except CacheError ByteRange :=
  let start := p.toUInt64 * partSize
  if start ≥ m.size then
    .error (.inconsistentState ("part " ++ Decimal.text p.toNat ++ " starts at " ++
      Decimal.text start.toNat ++ " beyond object size " ++ Decimal.text m.size.toNat))
  else
    let last := min (start + partSize - 1) (m.size - 1)
    ByteRange.make start last

end ObjectMetadata

end PartCache
