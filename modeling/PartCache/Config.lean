import PartCache.Error
import PartCache.Json.Value
import PartCache.Store.Layout

/-!
# Zone and cache configuration

A cache is configured with an optional upstream origin URL, a request timeout and
a list of zones.  A zone has an identifier (also its default cache key), a root
directory, a part size and a capacity in parts.

A configuration is valid when every zone is (a plain directory name as its id, a
part size from one byte to 64 MiB, room for two parts in each of the four
tiers), no two zones share an id or a directory, the upstream URL, if any, is an
`http://` or `https://` URL, and the timeout is positive.  Validation reports the
first failure in that order, zone by zone.

Two directories are the same when their paths have the same components: repeated
and trailing separators and `.` components after the first do not count.
-/

namespace PartCache

set_option autoImplicit false

/-- The largest part size, 64 MiB. -/
def maxPartSize : Nat := 64 * 1024 * 1024

/-- The least capacity of a zone: two parts in each of four tiers. -/
def minStorageObjects : Nat := 8

/-- The settings of one zone. -/
structure ZoneConfig where
  id : String
  path : String
  partSize : UInt64 := 2 * 1024 * 1024
  storageObjects : UInt64 := 4096
  deriving Inhabited

/-- The settings of the whole cache. -/
structure CacheConfig where
  upstreamUrl : Option String := none
  upstreamTimeoutSecs : UInt64 := 30
  zones : List ZoneConfig := []
  deriving Inhabited

/-- The components of a path: a root mark, a leading `.`, then names, `..` kept. -/
def pathComponents (p : String) : List String :=
  let parts := p.splitOn "/"
  let rooted := p.startsWith "/"
  let lead := if !rooted && parts.head? == some "." then ["."] else []
  (if rooted then ["/"] else []) ++ lead ++ parts.filter fun s => s != "" && s != "."

/-- Why a configuration is refused. -/
inductive ConfigFault where
  /-- A zone id that is no plain directory name. -/
  | badZoneId (id : String)
  /-- A part size of zero or above the largest. -/
  | badPartSize (id : String) (size : Nat)
  /-- A capacity below the least. -/
  | tooFewParts (id : String) (count : Nat)
  /-- A zone id used by an earlier zone. -/
  | duplicateId (id : String)
  /-- A directory used by an earlier zone. -/
  | sharedPath (id path : String)
  /-- An upstream URL that is neither an `http://` nor an `https://` URL. -/
  | badUpstreamUrl (url : String)
  /-- A timeout of zero seconds. -/
  | zeroTimeout
  deriving Inhabited, DecidableEq

/-- What a configuration error says about a fault. -/
def ConfigFault.message : ConfigFault → String
  | .badZoneId id => "zone id '" ++ id ++ "' must be a non-empty plain directory name"
  | .badPartSize id size => "zone " ++ id ++ ": part_size must be between 1 byte and " ++
      Decimal.text (maxPartSize / (1024 * 1024)) ++ "MB, got " ++ Decimal.text size ++ " bytes"
  | .tooFewParts id count => "zone " ++ id ++ ": storage_objects must be at least " ++
      Decimal.text minStorageObjects ++ ", got " ++ Decimal.text count
  | .duplicateId id => "duplicate zone id '" ++ id ++ "'"
  | .sharedPath id path => "zone " ++ id ++ ": path " ++ path ++ " is used by another zone"
  | .badUpstreamUrl url => "upstream_url must start with http:// or https://, got " ++ url
  | .zeroTimeout => "upstream_timeout_secs must be greater than 0"

/-- The configuration error of a fault. -/
def ConfigFault.toError (f : ConfigFault) : CacheError := .config f.message

namespace ZoneConfig

/-- The first check a zone fails, if any: its id, then part size, then capacity. -/
def validate (z : ZoneConfig) : Except CacheError Unit :=
  if !Layout.isPlainName z.id then .error (ConfigFault.badZoneId z.id).toError
  else if z.partSize = 0 ∨ z.partSize.toNat > maxPartSize then
    .error (ConfigFault.badPartSize z.id z.partSize.toNat).toError
  else if z.storageObjects.toNat < minStorageObjects then
    .error (ConfigFault.tooFewParts z.id z.storageObjects.toNat).toError
  else .ok ()

/-- A zone's settings as a JSON object. -/
def toJson (z : ZoneConfig) : Json :=
  .obj [("id", .str z.id), ("path", .str z.path), ("part_size", .nat z.partSize.toNat),
    ("storage_objects", .nat z.storageObjects.toNat), ("algorithm", .str "lru")]

end ZoneConfig

namespace CacheConfig

/-- Checks zones in order against themselves and the zones before them. -/
def validateZones (ids : List String) (paths : List (List String)) :
    List ZoneConfig → Except CacheError Unit
  | [] => .ok ()
  | z :: rest => do
    z.validate
    if ids.contains z.id then
      throw (ConfigFault.duplicateId z.id).toError
    let comps := pathComponents z.path
    if paths.contains comps then
      throw (ConfigFault.sharedPath z.id z.path).toError
    validateZones (z.id :: ids) (comps :: paths) rest

/-- The first check the configuration fails, if any. -/
def validate (c : CacheConfig) : Except CacheError Unit := do
  validateZones [] [] c.zones
  if let some url := c.upstreamUrl then
    if !(url.startsWith "http://" || url.startsWith "https://") then
      throw (ConfigFault.badUpstreamUrl url).toError
  if c.upstreamTimeoutSecs = 0 then
    throw ConfigFault.zeroTimeout.toError

/-- The cache settings as a JSON object. -/
def toJson (c : CacheConfig) : Json :=
  .obj [("upstream_url", .opt .str c.upstreamUrl),
    ("upstream_timeout_secs", .nat c.upstreamTimeoutSecs.toNat),
    ("zones", .arr (c.zones.map ZoneConfig.toJson))]

end CacheConfig

end PartCache
