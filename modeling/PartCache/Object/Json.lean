import PartCache.Object.Metadata
import PartCache.Json.Value

/-!
# Objects as JSON

Identities, part indexes, metadata and zone settings are stored and shown as JSON
objects with their fields in a fixed order: an identity as
`{"cache_key":…,"path":…}`, a part index as `{"object_id":…,"part":…}`, metadata
with `id`, `response_timestamp`, `status_code`, `size`, `headers` and
`expires_at`, and the settings of a zone as `{"part_size":…}`.
-/

namespace PartCache

set_option autoImplicit false

/-- The settings recorded in a zone directory. -/
structure ZoneSettings where
  partSize : UInt64
  deriving DecidableEq, Repr

namespace ObjectId

/-- An identity as a JSON object. -/
def toJson (id : ObjectId) : Json :=
  .obj [("cache_key", .str id.cacheKey), ("path", .str id.path)]

end ObjectId

namespace PartIndex

/-- A part index as a JSON object. -/
def toJson (i : PartIndex) : Json :=
  .obj [("object_id", i.object.toJson), ("part", .nat i.part.toNat)]

end PartIndex

namespace ObjectMetadata

/-- Metadata as a JSON object, fields in their fixed order. -/
def toJson (m : ObjectMetadata) : Json :=
  .obj [("id", m.id.toJson), ("response_timestamp", .int m.responseTimestamp),
    ("status_code", .nat m.statusCode), ("size", .nat m.size.toNat),
    ("headers", .obj (m.headers.map fun (k, vs) => (k, .arr (vs.map .str)))),
    ("expires_at", .int m.expiresAt)]

end ObjectMetadata

namespace CacheError

/-- An error as answers show it: its cause and its text. -/
def toJson (e : CacheError) : Json := .obj [("error", .str e.name), ("message", .str e.message)]

end CacheError

namespace IoError

/-- A byte-stream error as answers show it: `io.` and its kind, and its text. -/
def toJson (e : IoError) : Json :=
  .obj [("error", .str ("io." ++ e.kind.name)), ("message", .str e.message)]

end IoError

namespace ZoneSettings

/-- Settings as a JSON object. -/
def toJson (s : ZoneSettings) : Json := .obj [("part_size", .nat s.partSize.toNat)]

end ZoneSettings

end PartCache
