import PartCache.Yaml.Document
import PartCache.Yaml.Scalar

/-!
# Reading a YAML document against a shape

A loaded document is read against the shape the caller expects, node by node:

* a text takes any scalar, as written;
* a word takes a plain scalar written as an unsigned integer in range, whatever its
  tag; any other scalar is refused as what its tag and text make it;
* an optional value is absent for a plain null, present otherwise;
* a list takes a sequence, and a record a mapping; for both, nothing at all or an
  empty plain scalar stands for an empty one;
* a record's fields are met by key, unknown keys are passed over, a field given
  twice is refused, and a required field that never came is missing;
* a choice takes a scalar naming a variant, or a `!variant` tag on a null; a
  `!variant` tag on a collection names the variant, whose unit value a collection
  is not.

An alias is read as the anchored node it refers to.  A mismatch names the path of
the node, such as `zones[0].part_size`, and where the node starts.

The document must be the text's only one: after a successful read, the error
that ended the document, if any, is raised, and then a second document is
refused.
-/

namespace PartCache.Yaml

set_option autoImplicit false

/-- Where a node sits in a document. -/
inductive NodePath where
  | root
  | seq (parent : NodePath) (index : Nat)
  | map (parent : NodePath) (key : String)
  /-- Inside an anchored node reached through an alias. -/
  | alias (parent : NodePath)
  /-- The value of a key that is not a plain text. -/
  | unknown (parent : NodePath)

/-- A path as messages name it: `.` for the top, `key` and `parent.key` for fields,
`parent[i]` for items, `?` for a key that is not a plain text. -/
def NodePath.text : NodePath → String
  | .root => "."
  | .seq p i => p.text ++ "[" ++ Decimal.text i ++ "]"
  | .map p k => (match p with
    | .root => ""
    | _ => p.text ++ ".") ++ k
  | .alias p => p.text
  | .unknown p => (match p with
    | .root => ""
    | _ => p.text ++ ".") ++ "?"

namespace Document

/-- The mismatch for a node met where `expected` was wanted, not yet placed. -/
def mismatch (item : Item) (expected : String) : Fault :=
  match item with
  | .scalar tag v style =>
    match Reading.ofScalar tag v style with
    | .error msg => .message msg none
    | .ok r => .message (Mismatch.invalidType r.found expected) none
  | .sequenceStart _ => .message (Mismatch.invalidType .sequence expected) none
  | .mappingStart _ => .message (Mismatch.invalidType .map expected) none
  | _ => .endOfStream

/-- Whether an optional value is present at a node: anything but a plain null.  A scalar
tagged null that is not a null spelling is an invalid value. -/
def present (item : Item) : Except Fault Bool :=
  match item with
  | .scalar tag v style =>
    if style != .plain then .ok true
    else match tag with
      | some t =>
        if t.is nullTag then
          if isNull v then .ok false
          else .error (.message (Mismatch.invalidValue (.text v) "null") none)
        else .ok true
      | none => .ok (!v.isEmpty && !isNull v)
  | .sequenceStart _ | .mappingStart _ => .ok true
  | _ => .ok false

/-- Whether a node stands for an empty collection: nothing, or an empty plain scalar. -/
def blank : Item → Bool
  | .void => true
  | .scalar _ v style => v.isEmpty && style == .plain
  | _ => false

/-- The variant a `!name` tag names, when its name is UTF-8; `!` alone names `!`. -/
def variantTag : Option Tag → Option String
  | some t =>
    match t.bytes with
    | 33 :: rest => (⟨if rest.isEmpty then [33] else rest⟩ : Tag).text?
    | _ => none
  | none => none

/-- Moves past one node, nested collections and all, without following aliases. -/
def skipNode (d : Document) (pos : Nat) : Except Fault Nat := do
  let mut depth := 0
  let mut p := pos
  for _ in [0:d.items.size + 1] do
    let (item, _) ← d.peekAt p
    p := p + 1
    match item with
    | .sequenceStart _ | .mappingStart _ => depth := depth + 1
    | .sequenceEnd | .mappingEnd => depth := depth - 1
    | _ => pure ()
    if depth == 0 then break
  pure p

/-- Reads a mapping key: a scalar, or an alias to one. -/
def readKey (d : Document) (path : NodePath) (pos : Nat) : Except Fault String := do
  let (item, mark) ← d.peekAt pos
  Except.mapError (Fault.placed mark path.text) <| match item with
    | .scalar _ v _ => pure v
    | .alias id => do
      let (item', mark') ← d.peekAt (d.target id)
      Except.mapError (Fault.placed mark' (NodePath.alias path).text) <| match item' with
        | .scalar _ v _ => pure v
        | other => throw (mismatch other "field identifier")
    | other => throw (mismatch other "field identifier")

/-- The record read from the fields met, or the first required field missing. -/
def finish (fields : List (String × Shape × Bool)) (got : List (String × Value)) :
    Except Fault Value :=
  match fields.find? (fun f => !f.2.2 && !got.any (·.1 == f.1)) with
  | some (n, _, _) => .error (.message (Mismatch.missingField n) none)
  | none => .ok (.record got)

/-- Reads the value of `shape` at item `pos`, giving it and the position after the node. -/
def read (d : Document) : Nat → NodePath → Shape → Nat → Except Fault (Value × Nat)
  | 0, _, _, _ => .error .endOfStream
  | fuel + 1, path, shape, pos => do
    let (item, mark) ← d.peekAt pos
    let place := fun (f : Fault) => f.placed mark path.text
    let jump := fun (id : Nat) => do
      let (v, _) ← read d fuel (.alias path) shape (d.target id)
      pure (v, pos + 1)
    match shape with
    | .optional inner =>
      match item with
      | .alias id => jump id
      | _ => if ← present item then read d fuel path inner pos else pure (.none, pos + 1)
    | .text | .path =>
      Except.mapError place <| match item with
        | .scalar _ v _ => pure (.text v, pos + 1)
        | .alias id => jump id
        | other => throw (mismatch other shape.expected)
    | .word name lo hi =>
      Except.mapError place <| match item with
        | .scalar tag v style =>
          match (if style.readsAs intTag tag then unsignedOf 64 v.toList else none) with
          | some n =>
            match Shape.checkWord name lo hi n with
            | .ok v => pure (v, pos + 1)
            | .error msg => throw (.message msg none)
          | none =>
            match Reading.ofScalar tag v style with
            | .error msg => throw (.message msg none)
            | .ok r => throw (.message (Mismatch.invalidType r.found name) none)
        | .alias id => jump id
        | other => throw (mismatch other name)
    | .list itemShape =>
      Except.mapError place <| match item with
        | .alias id => jump id
        | .sequenceStart _ => do
          let mut p := pos + 1
          let mut items : Array Value := #[]
          for _ in [0:d.items.size] do
            let (it, _) ← d.peekAt p
            match it with
            | .sequenceEnd | .void => break
            | _ =>
              let (v, p') ← read d fuel (.seq path items.size) itemShape p
              items := items.push v
              p := p'
          let _ ← d.peekAt p
          pure (.list items.toList, p + 1)
        | other =>
          if blank other then pure (.list [], pos + 1) else throw (mismatch other shape.expected)
    | .record _ fields =>
      Except.mapError place <| match item with
        | .alias id => jump id
        | .mappingStart _ => do
          let mut p := pos + 1
          let mut got : List (String × Value) := []
          for _ in [0:d.items.size] do
            let (it, _) ← d.peekAt p
            match it with
            | .mappingEnd | .void => break
            | _ =>
              let key ← d.readKey path p
              let valuePath := match it with
                | .scalar .. => NodePath.map path key
                | _ => NodePath.unknown path
              p := p + 1
              match fields.find? (·.1 == key) with
              | some (name, fieldShape, _) =>
                if got.any (·.1 == name) then
                  throw (.message (Mismatch.duplicateField name) none)
                let (v, p') ← read d fuel valuePath fieldShape p
                got := got ++ [(name, v)]
                p := p'
              | none => p ← d.skipNode p
          let v ← finish fields got
          let _ ← d.peekAt p
          pure (v, p + 1)
        | other =>
          if blank other then do pure (← finish fields [], pos + 1)
          else throw (mismatch other shape.expected)
    | .choice _ variants =>
      match item with
      | .alias id => jump id
      | .scalar tag v style =>
        match variantTag tag with
        | some t =>
          if !variants.contains t then
            throw (.message (Mismatch.unknownVariant t variants) none)
          else if style == .plain && (v.isEmpty || isNull v) then pure (.variant t, pos + 1)
          else throw (place (.message (Mismatch.invalidValue (.text v) "null") none))
        | none =>
          if variants.contains v then pure (.variant v, pos + 1)
          else throw (place (.message (Mismatch.unknownVariant v variants) none))
      | .mappingStart tag | .sequenceStart tag =>
        let found : Found := if item matches .mappingStart _ then .map else .sequence
        match variantTag tag with
        | some t =>
          if !variants.contains t then
            throw (.message (Mismatch.unknownVariant t variants) none)
          else throw (place (.message (Mismatch.invalidType found "unit") none))
        | none =>
          throw (place (.message (Mismatch.invalidType found "a YAML tag starting with '!'") none))
      | _ => throw .endOfStream
    | .dict _ => throw (place (mismatch item shape.expected))

end Document

/-- Reads a YAML text holding one document against a shape. -/
def readYaml (shape : Shape) (input : String) : Except Fault Value := do
  match Document.first input with
  | (none, _) => throw .endOfStream
  | (some d, rest) =>
    let (v, _) ← d.read (2 * (d.items.size + 4)) .root shape 0
    if let some e := d.error then throw e
    match rest with
    | none => pure v
    | some g => if Document.another input g then throw .moreThanOneDocument else pure v

end PartCache.Yaml
