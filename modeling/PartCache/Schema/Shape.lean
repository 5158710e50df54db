import PartCache.Number.Shortest
import PartCache.Text.Quoted

/-!
# Shapes of stored records and the wording of mismatches

The configuration and the metadata files are read against a shape: a text, a
bounded integer, a list, a map from texts, a record of named fields (some of
them optional), a choice among named variants, or an optional value.  A reader
that meets something else says what it found and what it expected, in one
wording shared by every reader of this library:

    invalid type: string "x", expected a sequence
    invalid value: integer `70000`, expected u16
    missing field `path`
    unknown variant `arc`, expected `lru`
-/

namespace PartCache

set_option autoImplicit false

/-- The shape a reader expects. -/
inductive Shape where
  /-- A text, described as `a string`. -/
  | text
  /-- A text naming a directory, described as `path string`. -/
  | path
  /-- An integer in `[lo, hi]`, described by its word name such as `u64`. -/
  | word (name : String) (lo hi : Int)
  /-- A list of items of one shape. -/
  | list (item : Shape)
  /-- A map from texts to values of one shape. -/
  | dict (value : Shape)
  /-- A record: its name and its fields, each with a shape and whether it may be absent. -/
  | record (name : String) (fields : List (String × Shape × Bool))
  /-- One of the named variants of an enumeration. -/
  | choice (name : String) (variants : List String)
  /-- A value that may be absent. -/
  | optional (inner : Shape)
  deriving Inhabited

/-- A value read against a shape. -/
inductive Value where
  | text (s : String)
  | int (n : Int)
  | list (items : List Value)
  | dict (entries : List (String × Value))
  /-- The fields that were present, in the order they were met. -/
  | record (fields : List (String × Value))
  | variant (name : String)
  | none
  deriving Inhabited

/-- What a reader met where it expected something else. -/
inductive Found where
  | unit
  /-- JSON's null, which JSON readers name as such. -/
  | null
  | bool (b : Bool)
  | unsigned (n : Nat)
  | signed (n : Int)
  | float (x : Binary64)
  /-- A binary64 value that JSON readers show in its shortest form, exponent and all. -/
  | shortFloat (x : Binary64)
  | text (s : String)
  | sequence
  | map
  | other (description : String)

namespace Found

/-- The words for what was found. -/
def describe : Found → String
  | unit => "unit value"
  | bool b => "boolean `" ++ (if b then "true" else "false") ++ "`"
  | unsigned n => "integer `" ++ Decimal.text n ++ "`"
  | signed n => "integer `" ++ (if n < 0 then "-" else "") ++ Decimal.text n.natAbs ++ "`"
  | float x => "floating point `" ++ x.quoted ++ "`"
  | shortFloat x => "floating point `" ++ x.jsonText ++ "`"
  | null => "null"
  | .text s => "string " ++ Text.quote s
  | sequence => "sequence"
  | map => "map"
  | other d => d

end Found

namespace Shape

/-- How a shape is named in a message. -/
def expected : Shape → String
  | text => "a string"
  | path => "path string"
  | word name _ _ => name
  | list _ => "a sequence"
  | dict _ => "a map"
  | record name _ => "struct " ++ name
  | choice name _ => "enum " ++ name
  | optional _ => "option"

end Shape

namespace Mismatch

/-- Something of the wrong kind was met. -/
def invalidType (found : Found) (expected : String) : String :=
  "invalid type: " ++ found.describe ++ ", expected " ++ expected

/-- Something of the right kind but out of range was met. -/
def invalidValue (found : Found) (expected : String) : String :=
  "invalid value: " ++ found.describe ++ ", expected " ++ expected

/-- A list had too few items for a record read from it. -/
def invalidLength (n : Nat) (expected : String) : String :=
  "invalid length " ++ Decimal.text n ++ ", expected " ++ expected

/-- A required field was absent. -/
def missingField (name : String) : String := "missing field `" ++ name ++ "`"

/-- A field was given twice. -/
def duplicateField (name : String) : String := "duplicate field `" ++ name ++ "`"

/-- The variants a choice accepts, as a message lists them. -/
def oneOf : List String → String
  | [] => "there are no variants"
  | [a] => "`" ++ a ++ "`"
  | [a, b] => "`" ++ a ++ "` or `" ++ b ++ "`"
  | vs => "one of " ++ ", ".intercalate (vs.map fun v => "`" ++ v ++ "`")

/-- A name that no variant has. -/
def unknownVariant (name : String) (variants : List String) : String :=
  "unknown variant `" ++ name ++ "`, expected " ++ oneOf variants

end Mismatch

/-- The reading of an integer found in the input against a bounded shape. -/
def Shape.checkWord (name : String) (lo hi : Int) (n : Int) : Except String Value :=
  if lo ≤ n ∧ n ≤ hi then .ok (.int n)
  else
    let found : Found := if n < 0 then .signed n else .unsigned n.toNat
    .error (Mismatch.invalidValue found name)

end PartCache
