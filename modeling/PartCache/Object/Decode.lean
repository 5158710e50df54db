import PartCache.Json.Reader
import PartCache.Object.Json
import PartCache.Error

/-!
# Reading objects from JSON

Identities, part indexes, metadata and zone settings are read from JSON text
against their shapes.  The shape fixes what the reader accepts, so the decoders
that turn the read value into a record only pick fields out: a field the shape
marks optional and that was absent takes its default, the empty header map.

A fault of the reader becomes a serialization error carrying the reader's text.
-/

namespace PartCache

set_option autoImplicit false

/-! ## Shapes -/

namespace Shapes

/-- A signed 64-bit integer. -/
def i64 : Shape := .word "i64" (-9223372036854775808) 9223372036854775807

/-- An unsigned 64-bit integer. -/
def u64 : Shape := .word "u64" 0 18446744073709551615

/-- An unsigned 32-bit integer. -/
def u32 : Shape := .word "u32" 0 4294967295

/-- An unsigned 16-bit integer. -/
def u16 : Shape := .word "u16" 0 65535

/-- An identity: its cache key and path. -/
def objectId : Shape := .record "RawObjectId" [("cache_key", .text, false), ("path", .text, false)]

/-- A part index: an identity and a part number. -/
def partIndex : Shape := .record "ObjectIndex" [("object_id", objectId, false), ("part", u32, false)]

/-- Metadata; the header map may be absent. -/
def metadata : Shape :=
  .record "ObjectMetadata" [("id", objectId, false), ("response_timestamp", i64, false),
    ("status_code", u16, false), ("size", u64, false), ("headers", .dict (.list .text), true),
    ("expires_at", i64, false)]

/-- Zone settings. -/
def settings : Shape := .record "ZoneSettings" [("part_size", u64, false)]

end Shapes

/-! ## Picking fields out of a read value -/

namespace Value

/-- A field of a record, if present. -/
def field? (v : Value) (name : String) : Option Value :=
  match v with
  | .record fields => (fields.find? (·.1 == name)).map (·.2)
  | _ => none

/-- A text, or the empty text. -/
def textOr : Option Value → String
  | some (.text s) => s
  | _ => ""

/-- An integer, or zero. -/
def intOr : Option Value → Int
  | some (.int n) => n
  | _ => 0

/-- A list of texts; other items are left out. -/
def texts : Value → List String
  | .list items => items.filterMap fun
    | .text s => some s
    | _ => Option.none
  | _ => []

end Value

/-- An identity from a read value. -/
def ObjectId.ofValue (v : Value) : ObjectId :=
  ⟨Value.textOr (v.field? "cache_key"), Value.textOr (v.field? "path")⟩

/-- A part index from a read value. -/
def PartIndex.ofValue (v : Value) : PartIndex :=
  ⟨ObjectId.ofValue ((v.field? "object_id").getD .none),
    (Value.intOr (v.field? "part")).toNat.toUInt32⟩

/-- Headers from a read map, sorted by name. -/
def Headers.ofValue : Option Value → Headers
  | some (.dict entries) => entries.foldl (fun hs (k, vs) => hs.insert k vs.texts) []
  | _ => []

/-- Metadata from a read value. -/
def ObjectMetadata.ofValue (v : Value) : ObjectMetadata :=
  ⟨ObjectId.ofValue ((v.field? "id").getD .none), Value.intOr (v.field? "response_timestamp"),
    (Value.intOr (v.field? "status_code")).toNat, (Value.intOr (v.field? "size")).toNat.toUInt64,
    Headers.ofValue (v.field? "headers"), Value.intOr (v.field? "expires_at")⟩

/-- Settings from a read value. -/
def ZoneSettings.ofValue (v : Value) : ZoneSettings :=
  ⟨(Value.intOr (v.field? "part_size")).toNat.toUInt64⟩

/-! ## Reading from bytes -/

/-- Reads bytes against a shape and decodes the value; a fault is a serialization error. -/
def readAs {α : Type} (shape : Shape) (decode : Value → α) (input : Bytes) : Except CacheError α :=
  match JsonReader.document shape input with
  | .ok v => .ok (decode v)
  | .error f => .error (.serialization f.text)

/-- Reads an identity from JSON bytes. -/
def ObjectId.ofJson (input : Bytes) : Except CacheError ObjectId :=
  readAs Shapes.objectId ObjectId.ofValue input

/-- Reads a part index from JSON bytes. -/
def PartIndex.ofJson (input : Bytes) : Except CacheError PartIndex :=
  readAs Shapes.partIndex PartIndex.ofValue input

/-- Reads metadata from JSON bytes. -/
def ObjectMetadata.ofJson (input : Bytes) : Except CacheError ObjectMetadata :=
  readAs Shapes.metadata ObjectMetadata.ofValue input

/-- Reads zone settings from JSON bytes. -/
def ZoneSettings.ofJson (input : Bytes) : Except CacheError ZoneSettings :=
  readAs Shapes.settings ZoneSettings.ofValue input

end PartCache
