/-!
# Tables of code point properties

The character properties this library needs (combining classes, decompositions,
directions, joining types, marks, the domain name mapping) come as tables sorted
by code point.  A table is an array of rows, each with a key: either every row
stands for the code points from its key up to the next row's key, or a row
names an inclusive range and code points outside every range have no value.

Lookups halve the interval of rows still in question, at most a number of times
fixed by the table's size, so they are structurally recursive and run in
logarithmic time.
-/

namespace PartCache.Text

set_option autoImplicit false

/-- The last row of a table sorted by `key` whose key is at most `n`: the interval
`[lo, hi)` of rows still in question is halved at most `depth` times, and rows before `lo`
are known to have keys at most `n`. -/
def lastAtMostIn {α : Type} (rows : Array α) (key : α → Nat) (n : Nat) :
    Nat → Nat → Nat → Option α
  | 0, _, _ => none
  | depth + 1, lo, hi =>
    if lo < hi then
      let mid := (lo + hi) / 2
      match rows[mid]? with
      | some r =>
        if key r ≤ n then lastAtMostIn rows key n depth (mid + 1) hi
        else lastAtMostIn rows key n depth lo mid
      | none => none
    else if lo = 0 then none
    else rows[lo - 1]?

/-- The last row of a table sorted by `key` whose key is at most `n`. -/
def lastAtMost {α : Type} (rows : Array α) (key : α → Nat) (n : Nat) : Option α :=
  lastAtMostIn rows key n (rows.size.log2 + 2) 0 rows.size

/-- The value of `n` in a table whose rows each hold from their start to the next row's. -/
def stepValue {α : Type} (rows : Array (Nat × α)) (n : Nat) : Option α :=
  (lastAtMost rows (·.1) n).map (·.2)

/-- The value of `n` in a table of disjoint inclusive ranges sorted by start, if a range
holds it. -/
def rangeValue {α : Type} (rows : Array (Nat × Nat × α)) (n : Nat) : Option α :=
  match lastAtMost rows (·.1) n with
  | some (_, stop, v) => if n ≤ stop then some v else none
  | none => none

/-- Whether a table of disjoint inclusive ranges sorted by start holds `n`. -/
def inRangeTable (rows : Array (Nat × Nat)) (n : Nat) : Bool :=
  match lastAtMost rows (·.1) n with
  | some (_, stop) => n ≤ stop
  | none => false

/-- The value of the row keyed exactly `n` in a table sorted by key. -/
def exactValue {α : Type} (rows : Array (Nat × α)) (n : Nat) : Option α :=
  match lastAtMost rows (·.1) n with
  | some (k, v) => if k = n then some v else none
  | none => none

/-- A large table kept as consecutive chunks of rows, each chunk sorted by key and starting
after the one before it ends: lookups first find the chunk, then the row. -/
abbrev Chunked (α : Type) := Array (Array α)

/-- The last row whose key is at most `n` in a chunked table. -/
def Chunked.lastAtMost {α : Type} (chunks : Chunked α) (key : α → Nat) (n : Nat) : Option α :=
  match Text.lastAtMost chunks (fun chunk => (chunk[0]?.map key).getD 0) n with
  | some chunk => Text.lastAtMost chunk key n
  | none => none

/-- The value of `n` in a chunked table whose rows each hold up to the next row's key. -/
def Chunked.stepValue {α : Type} (chunks : Chunked (Nat × α)) (n : Nat) : Option α :=
  (chunks.lastAtMost (·.1) n).map (·.2)

/-- The value of `n` in a chunked table of disjoint inclusive ranges, if a range holds it. -/
def Chunked.rangeValue {α : Type} (chunks : Chunked (Nat × Nat × α)) (n : Nat) : Option α :=
  match chunks.lastAtMost (·.1) n with
  | some (_, stop, v) => if n ≤ stop then some v else none
  | none => none

/-- The value of the row keyed exactly `n` in a chunked table. -/
def Chunked.exactValue {α : Type} (chunks : Chunked (Nat × α)) (n : Nat) : Option α :=
  match chunks.lastAtMost (·.1) n with
  | some (k, v) => if k = n then some v else none
  | none => none

end PartCache.Text
