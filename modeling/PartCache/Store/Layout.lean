import PartCache.Object.Id
import PartCache.Number.Decimal

/-!
# Where objects live in a zone directory

A zone directory holds its settings file and one directory per object:

    <root>/.zone_settings.json
    <root>/<namespace>/<digest[0:2]>/<digest[2:4]>/<digest>/objID
    <root>/<namespace>/<digest[0:2]>/<digest[2:4]>/<digest>/000000

The namespace is the cache key when that is a plain directory name (non-empty,
not starting with a dot, without `/`, `\` or NUL), else `_` followed by the
hexadecimal bytes of the key, so that no key leads out of the zone.  Parts are
files named by their number in at least six decimal digits; a file is written
first under a temporary name, its own followed by `.tmp.` and a number.
-/

namespace PartCache.Layout

set_option autoImplicit false

/-- The name of the metadata file in an object directory. -/
def metadataFile : String := "objID"

/-- The name of the settings file in the zone root. -/
def settingsFile : String := ".zone_settings.json"

/-- The mark inside the name of a file that is being written. -/
def tempMark : String := ".tmp."

/-- Whether a name can serve as one directory below the zone root. -/
def isPlainName (s : String) : Bool :=
  !s.isEmpty && !s.startsWith "." && !(s.toList.any fun c => c = '/' || c = '\\' || c = '\x00')

/-- The directory name of a cache key's namespace. -/
def namespaceDir (key : String) : String :=
  if isPlainName key then key else "_" ++ Bytes.hex (Bytes.ofString key)

/-- The path of an object's directory below the root: namespace and three digest names. -/
def objectDir (id : ObjectId) : List String :=
  let h := id.digestHex.toList
  [namespaceDir id.cacheKey, String.ofList (h.take 2), String.ofList ((h.drop 2).take 2),
    String.ofList h]

/-- The name of a part's file: its number in at least six digits. -/
def partFileName (p : UInt32) : String := Decimal.padded 6 p.toNat

/-- The path of an object's metadata file below the root. -/
def metadataPath (id : ObjectId) : List String := objectDir id ++ [metadataFile]

/-- The path of a part's file below the root. -/
def partPath (i : PartIndex) : List String := objectDir i.object ++ [partFileName i.part]

/-- The part number a file name stands for: six or more ASCII digits that fit 32 bits. -/
def partNumber? (name : String) : Option UInt32 :=
  if name.utf8ByteSize < 6 then none
  else match Decimal.digitsValue? name.toList with
    | some v => if v < UInt32.size then some v.toUInt32 else none
    | none => none

/-- Whether `pat` occurs in `cs` as a contiguous run. -/
def occursIn (pat : List Char) : List Char → Bool
  | [] => pat.isEmpty
  | c :: rest => (c :: rest).take pat.length == pat || occursIn pat rest

/-- Whether a file name marks a file being written. -/
def isTempName (name : String) : Bool := occursIn tempMark.toList name.toList

/-- The temporary sibling a file is written to first: its name followed by the mark and the
number the process handed out. -/
def tempPath (path : List String) (n : UInt64) : List String :=
  path.dropLast ++ [path.getLast?.getD "" ++ tempMark ++ Decimal.text n.toNat]

/-- A relative path written with `/` between its names. -/
def render (path : List String) : String := "/".intercalate path

theorem length_objectDir (id : ObjectId) : (objectDir id).length = 4 := rfl

end PartCache.Layout
