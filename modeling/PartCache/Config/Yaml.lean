import PartCache.Config
import PartCache.Object.Decode
import PartCache.Yaml.Decode

/-!
# Reading the configuration from YAML

The configuration file is a YAML mapping with the fields `upstream_url`,
`upstream_timeout_secs` and `zones`, each zone a mapping with `id`, `path`,
`part_size`, `storage_objects` and `algorithm`.  Every field but a zone's `id`
and `path` may be left out and takes its default; fields the cache does not know
are passed over.  The only eviction algorithm is `lru`.

A text that is not such a document is refused with the reader's message; one
that is must then pass validation.
-/

namespace PartCache

set_option autoImplicit false

namespace Shapes

/-- A zone's settings in the configuration file. -/
def zoneConfig : Shape :=
  .record "ZoneConfig"
    [("id", .text, false), ("path", .path, false), ("part_size", u64, true),
      ("storage_objects", u64, true), ("algorithm", .choice "AlgorithmKind" ["lru"], true)]

/-- The configuration file. -/
def cacheConfig : Shape :=
  .record "CacheConfig"
    [("upstream_url", .optional .text, true), ("upstream_timeout_secs", u64, true),
      ("zones", .list zoneConfig, true)]

end Shapes

/-- An unsigned integer field, or its default when absent. -/
def Value.wordOr (default : UInt64) : Option Value → UInt64
  | some (.int n) => n.toNat.toUInt64
  | _ => default

/-- A zone's settings from a read value. -/
def ZoneConfig.ofValue (v : Value) : ZoneConfig :=
  { id := Value.textOr (v.field? "id")
    path := Value.textOr (v.field? "path")
    partSize := Value.wordOr (2 * 1024 * 1024) (v.field? "part_size")
    storageObjects := Value.wordOr 4096 (v.field? "storage_objects") }

namespace CacheConfig

/-- The configuration from a read value. -/
def ofValue (v : Value) : CacheConfig :=
  { upstreamUrl := match v.field? "upstream_url" with
      | some (.text s) => some s
      | _ => none
    upstreamTimeoutSecs := Value.wordOr 30 (v.field? "upstream_timeout_secs")
    zones := match v.field? "zones" with
      | some (.list zs) => zs.map ZoneConfig.ofValue
      | _ => [] }

/-- Reads and validates the configuration from YAML text. -/
def ofYaml (text : String) : Except CacheError CacheConfig :=
  match Yaml.readYaml Shapes.cacheConfig text with
  | .error f => .error (.config ("Failed to parse config file: " ++ f.text))
  | .ok v =>
    let c := ofValue v
    match c.validate with
    | .ok () => .ok c
    | .error e => .error e

end CacheConfig

end PartCache
