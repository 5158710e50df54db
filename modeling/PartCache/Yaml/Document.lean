import PartCache.Yaml.Event

/-!
# Loading YAML documents

A document is loaded as the list of its node events, each with where it starts.
Anchors are numbered as they are met, and an alias becomes the number of the
anchor it names, so a reader can jump to the anchored node; an alias to an
anchor not yet seen is an error.  The number given to an anchor is the count of
distinct anchor names met before it, so that a name used twice takes the
number after its first use and the anchor after it shares that number: the
later of the two nodes is the one found by it.

A syntax error ends the document; the events before it are kept with the
error, which a reader meets only if it reads past them.  A stream with no
document at all loads as one document holding nothing.
-/

namespace PartCache.Yaml

set_option autoImplicit false

/-- A node event of a loaded document. -/
inductive Item where
  /-- A reference to the node with this anchor number. -/
  | alias (id : Nat)
  | scalar (tag : Option Tag) (value : String) (style : ScalarStyle)
  | sequenceStart (tag : Option Tag)
  | sequenceEnd
  | mappingStart (tag : Option Tag)
  | mappingEnd
  /-- Nothing: the document of an empty stream. -/
  | void
  deriving Inhabited, Repr

/-- Why a YAML text could not be read into a value. -/
inductive Fault where
  | malformed (e : SyntaxError)
  | unknownAnchor (mark : Mark)
  /-- The events ran out where a value was expected. -/
  | endOfStream
  | moreThanOneDocument
  /-- A mismatch, with the node's position and path once known. -/
  | message (text : String) (place : Option (Mark × String))
  deriving Inhabited

namespace Fault

/-- Where a mark is named at the end of a message, if it is not the very start. -/
def markSuffix (m : Mark) : String := if m.atStart then "" else " at " ++ m.text

/-- The text of a fault. -/
def text : Fault → String
  | malformed e => e.text
  | unknownAnchor m => "unknown anchor" ++ markSuffix m
  | endOfStream => "EOF while parsing a value"
  | moreThanOneDocument =>
    "deserializing from YAML containing more than one document is not supported"
  | message t none => t
  | message t (some (m, path)) => (if path == "." then "" else path ++ ": ") ++ t ++ markSuffix m

/-- Places a mismatch not yet placed at a node and its path. -/
def placed (m : Mark) (path : String) : Fault → Fault
  | message t none => message t (some (m, path))
  | f => f

end Fault

/-- A loaded document: its node events with their marks, where each anchor number's node
starts, and the error that ended it, if any. -/
structure Document where
  items : Array (Item × Mark) := #[]
  anchors : List (Nat × Nat) := []
  error : Option Fault := none
  deriving Inhabited

namespace Document

/-- Records an anchor on the node about to be added, under the next number. -/
def anchor (names : List (String × Nat)) (d : Document) :
    Option String → List (String × Nat) × Document
  | none => (names, d)
  | some name =>
    let id := names.length
    ((name, id) :: names.filter (·.1 != name),
      { d with anchors := (id, d.items.size) :: d.anchors.filter (·.1 != id) })

/-- Adds a node event. -/
def add (d : Document) (item : Item) (m : Mark) : Document := { d with items := d.items.push (item, m) }

/-- Loads the next document from the grammar: `none` when the stream has ended (for the
first document, an empty stream gives a document holding nothing), and the grammar to
load further documents from, if the stream goes on. -/
def load (first : Bool) : Nat → List (String × Nat) → Document → Grammar →
    Option Document × Option Grammar
  | 0, _, d, _ => (some d, none)
  | fuel + 1, names, d, g =>
    match Grammar.next.run g with
    | .error e => (some { d with error := some (.malformed e) }, none)
    | .ok ((e, m), g) =>
      match e with
      | .streamStart | .documentStart => load first fuel names d g
      | .streamEnd =>
        if first then
          (some (if d.items.isEmpty then d.add .void m else d), none)
        else (none, none)
      | .documentEnd => (some d, some g)
      | .alias name =>
        match names.lookup name with
        | some id => load first fuel names (d.add (.alias id) m) g
        | none => (some { d with error := some (.unknownAnchor m) }, none)
      | .scalar a tag v style =>
        let (names, d) := anchor names d a
        load first fuel names (d.add (.scalar tag v style) m) g
      | .sequenceStart a tag =>
        let (names, d) := anchor names d a
        load first fuel names (d.add (.sequenceStart tag) m) g
      | .sequenceEnd => load first fuel names (d.add .sequenceEnd m) g
      | .mappingStart a tag =>
        let (names, d) := anchor names d a
        load first fuel names (d.add (.mappingStart tag) m) g
      | .mappingEnd => load first fuel names (d.add .mappingEnd m) g

/-- How many events loading a text can take at most: every event but the empty scalars
takes a token, and tokens are fewer than characters plus the block ends, which close
the starts. -/
def eventBound (input : String) : Nat := 8 * (input.length + 4)

/-- The first document of a text, and the grammar after it if the stream goes on. -/
def first (input : String) : Option Document × Option Grammar :=
  load true (eventBound input) [] {} (Grammar.start input)

/-- Whether another document follows, a syntax error counting as one. -/
def another (input : String) (g : Grammar) : Bool :=
  (load false (eventBound input) [] {} g).1.isSome

/-- The item at a position, or the error that ended the document there. -/
def peekAt (d : Document) (pos : Nat) : Except Fault (Item × Mark) :=
  match d.items[pos]? with
  | some e => .ok e
  | none => .error (d.error.getD .endOfStream)

/-- Where the node with an anchor number starts. -/
def target (d : Document) (id : Nat) : Nat := (d.anchors.lookup id).getD d.items.size

end Document

end PartCache.Yaml
