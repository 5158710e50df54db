import PartCache.Yaml.Lexer

/-!
# The YAML grammar: tokens into events

The grammar reads tokens and gives events one at a time: the stream and each
document start and end, scalars, aliases, and the starts and ends of sequences
and mappings.  It is a state machine with a stack of states to return to and a
stack of marks where the open collections began, for error messages.

A node may carry an anchor and a tag, in either order.  A tag's handle is
resolved against the document's `%TAG` directives and the two standard handles:
`!` stands for itself and `!!` for `tag:yaml.org,2002:`.  A node with properties
but no content is an empty plain scalar, and so is a missing key or value.

Tokens are asked for only as they are needed, so an error in the text after a
node surfaces only when the grammar reaches it.
-/

namespace PartCache.Yaml

set_option autoImplicit false

/-- What the grammar reports. -/
inductive Event where
  | streamStart
  | streamEnd
  | documentStart
  | documentEnd
  | alias (name : String)
  | scalar (anchor : Option String) (tag : Option Tag) (value : String) (style : ScalarStyle)
  | sequenceStart (anchor : Option String) (tag : Option Tag)
  | sequenceEnd
  | mappingStart (anchor : Option String) (tag : Option Tag)
  | mappingEnd
  deriving Inhabited, Repr

/-- The states of the grammar. -/
inductive Phase where
  | streamStart
  | implicitDocumentStart
  | documentStart
  | documentContent
  | documentEnd
  | blockNode
  | blockSequenceFirstEntry
  | blockSequenceEntry
  | indentlessSequenceEntry
  | blockMappingFirstKey
  | blockMappingKey
  | blockMappingValue
  | flowSequenceFirstEntry
  | flowSequenceEntry
  | flowSequenceEntryMappingKey
  | flowSequenceEntryMappingValue
  | flowSequenceEntryMappingEnd
  | flowMappingFirstKey
  | flowMappingKey
  | flowMappingValue
  | flowMappingEmptyValue
  | finished
  deriving Inhabited, DecidableEq, Repr

/-- The grammar's state: the scanner, whether its front token has been fetched, the state
and the stacks, and the tag handles in force. -/
structure Grammar where
  lexer : Lexer
  ready : Bool := false
  phase : Phase := .streamStart
  phases : List Phase := []
  marks : List Mark := []
  tags : List (String × Tag) := []
  deriving Inhabited

/-- Grammar steps: they change the grammar and may fail with a syntax error. -/
abbrev GrammarM := StateT Grammar (Except SyntaxError)

namespace Grammar

/-- The grammar at the start of a text. -/
def start (input : String) : Grammar := { lexer := Lexer.start input }

/-! ## Tokens and stacks -/

/-- The front token, scanning for it if it is not there yet. -/
def peek : GrammarM Token := do
  let g ← get
  if g.ready then pure (g.lexer.queue.headD ⟨.streamEnd, g.lexer.mark, g.lexer.mark⟩)
  else
    match Lexer.fetchMore.run g.lexer with
    | .ok ((), lx) =>
      set { g with lexer := lx, ready := true }
      pure (lx.queue.headD ⟨.streamEnd, lx.mark, lx.mark⟩)
    | .error e => throw e

/-- Takes the front token. -/
def skipToken : GrammarM Unit :=
  modify fun g =>
    { g with ready := false,
             lexer := { g.lexer with queue := g.lexer.queue.drop 1, parsed := g.lexer.parsed + 1 } }

/-- Moves to a state. -/
def goTo (p : Phase) : GrammarM Unit := modify fun g => { g with phase := p }

/-- Saves a state to return to. -/
def push (p : Phase) : GrammarM Unit := modify fun g => { g with phases := p :: g.phases }

/-- The grammar returned to its last saved state; with none saved, the stream is over. -/
def popped (g : Grammar) : Grammar :=
  match g.phases with
  | p :: rest => { g with phase := p, phases := rest }
  | [] => { g with phase := .finished }

/-- Returns to the last saved state. -/
def pop : GrammarM Unit := modify popped

/-- Saves where a collection began. -/
def pushMark (m : Mark) : GrammarM Unit := modify fun g => { g with marks := m :: g.marks }

/-- Takes the mark of the innermost open collection. -/
def popMark : GrammarM Mark := do
  let g ← get
  match g.marks with
  | m :: rest =>
    set { g with marks := rest }
    pure m
  | [] => pure Mark.origin

/-- Fails with a problem met at `m`. -/
def fail {α : Type} (problem : String) (m : Mark) : GrammarM α :=
  throw { problem, problemMark := m }

/-- Fails with a problem met at `m` while reading what began at `contextMark`. -/
def failIn {α : Type} (context : String) (contextMark : Mark) (problem : String) (m : Mark) :
    GrammarM α :=
  throw { problem, problemMark := m, context := some context, contextMark }

/-- An empty plain scalar, for a missing node. -/
def empty : Event := .scalar none none "" .plain

/-- How many tokens a loop over what is left may take. -/
def budget : GrammarM Nat := do
  let g ← get
  pure (g.lexer.rest.length + g.lexer.queue.length + 2)

/-! ## Nodes -/

/-- Reads a node's anchor and tag, in either order: the anchor, the tag's handle and suffix,
where the properties began, where the tag began, and the token after them. -/
def properties : GrammarM (Option String × Option (String × Tag) × Mark × Mark × Token) := do
  let t ← peek
  match t.kind with
  | .anchor a =>
    skipToken
    let t2 ← peek
    match t2.kind with
    | .tag h s =>
      skipToken
      pure (some a, some (h, s), t.start, t2.start, ← peek)
    | _ => pure (some a, none, t.start, t.start, t2)
  | .tag h s =>
    skipToken
    let t2 ← peek
    match t2.kind with
    | .anchor a =>
      skipToken
      pure (some a, some (h, s), t.start, t.start, ← peek)
    | _ => pure (none, some (h, s), t.start, t.start, t2)
  | _ => pure (none, none, t.start, t.start, t)

/-- The full tag a handle and suffix stand for. -/
def resolveTag (start tagMark : Mark) (handle : String) (suffix : Tag) : GrammarM Tag := do
  if handle.isEmpty then pure suffix.terminated
  else
    match (← get).tags.find? (·.1 == handle) with
    | some (_, pfx) => pure (pfx.terminated ++ suffix.terminated)
    | none => failIn "while parsing a node" start "found undefined tag handle" tagMark

/-- Reads a node: an alias, a scalar, or the start of a collection.  In block context a
collection may be a block one; `indentless` lets a sequence start at its key's column. -/
def node (block indentless : Bool) : GrammarM (Event × Mark) := do
  let t ← peek
  match t.kind with
  | .alias name =>
    pop
    skipToken
    pure (.alias name, t.start)
  | _ =>
    let (anchor, tagged, start, tagMark, t) ← properties
    let tag ← match tagged with
      | some (h, s) => some <$> resolveTag start tagMark h s
      | none => pure none
    match t.kind, block, indentless with
    | .blockEntry, _, true =>
      goTo .indentlessSequenceEntry
      pure (.sequenceStart anchor tag, start)
    | .scalar v style, _, _ =>
      pop
      skipToken
      pure (.scalar anchor tag v style, start)
    | .flowSequenceStart, _, _ =>
      goTo .flowSequenceFirstEntry
      pure (.sequenceStart anchor tag, start)
    | .flowMappingStart, _, _ =>
      goTo .flowMappingFirstKey
      pure (.mappingStart anchor tag, start)
    | .blockSequenceStart, true, _ =>
      goTo .blockSequenceFirstEntry
      pure (.sequenceStart anchor tag, start)
    | .blockMappingStart, true, _ =>
      goTo .blockMappingFirstKey
      pure (.mappingStart anchor tag, start)
    | _, _, _ =>
      if anchor.isSome || tag.isSome then
        pop
        pure (.scalar anchor tag "" .plain, start)
      else
        failIn (if block then "while parsing a block node" else "while parsing a flow node") start
          "did not find expected node content" t.start

/-! ## Documents -/

/-- Reads the directives before a document, then adds the standard tag handles. -/
def directives : GrammarM Unit := do
  let mut version := false
  for _ in [0:← budget] do
    let t ← peek
    match t.kind with
    | .versionDirective major minor =>
      if version then fail "found duplicate %YAML directive" t.start
      if major != 1 || (minor != 1 && minor != 2) then
        fail "found incompatible YAML document" t.start
      version := true
      skipToken
    | .tagDirective handle pfx =>
      if (← get).tags.any (·.1 == handle) then fail "found duplicate %TAG directive" t.start
      modify fun g => { g with tags := g.tags ++ [(handle, pfx)] }
      skipToken
    | _ => break
  for (h, p) in [("!", Tag.ofString "!"), ("!!", Tag.ofString "tag:yaml.org,2002:")] do
    modify fun g => if g.tags.any (·.1 == h) then g else { g with tags := g.tags ++ [(h, p)] }

/-- Starts a document, implicit (no `---`) only where allowed, or ends the stream. -/
def documentStart (implicit : Bool) : GrammarM (Event × Mark) := do
  let mut t ← peek
  if !implicit then
    for _ in [0:← budget] do
      if t.kind matches .documentEnd then
        skipToken
        t ← peek
      else break
  let opens := match t.kind with
    | .versionDirective .. | .tagDirective .. | .documentStart | .streamEnd => true
    | _ => false
  if implicit && !opens then
    directives
    push .documentEnd
    goTo .blockNode
    pure (.documentStart, t.start)
  else if !(t.kind matches .streamEnd) then
    let start := t.start
    directives
    let t' ← peek
    if !(t'.kind matches .documentStart) then fail "did not find expected <document start>" t'.start
    push .documentEnd
    goTo .documentContent
    skipToken
    pure (.documentStart, start)
  else
    goTo .finished
    skipToken
    pure (.streamEnd, t.start)

/-- Reads an explicit document's content, which may be empty. -/
def documentContent : GrammarM (Event × Mark) := do
  let t ← peek
  match t.kind with
  | .versionDirective .. | .tagDirective .. | .documentStart | .documentEnd | .streamEnd =>
    pop
    pure (empty, t.start)
  | _ => node true false

/-- Ends a document, taking a `...` if there is one. -/
def documentEnd : GrammarM (Event × Mark) := do
  let t ← peek
  if t.kind matches .documentEnd then skipToken
  modify fun g => { g with tags := [] }
  goTo .documentStart
  pure (.documentEnd, t.start)

/-! ## Block collections -/

/-- Reads an entry of a block sequence, or its end. -/
def blockSequenceEntry (first : Bool) : GrammarM (Event × Mark) := do
  if first then
    pushMark (← peek).start
    skipToken
  let t ← peek
  match t.kind with
  | .blockEntry =>
    skipToken
    let t2 ← peek
    match t2.kind with
    | .blockEntry | .blockEnd =>
      goTo .blockSequenceEntry
      pure (empty, t.stop)
    | _ =>
      push .blockSequenceEntry
      node true false
  | .blockEnd =>
    pop
    let _ ← popMark
    skipToken
    pure (.sequenceEnd, t.start)
  | _ =>
    let m ← popMark
    failIn "while parsing a block collection" m "did not find expected '-' indicator" t.start

/-- Reads an entry of a sequence written at its key's column, or its end. -/
def indentlessSequenceEntry : GrammarM (Event × Mark) := do
  let t ← peek
  match t.kind with
  | .blockEntry =>
    skipToken
    let t2 ← peek
    match t2.kind with
    | .blockEntry | .key | .value | .blockEnd =>
      goTo .indentlessSequenceEntry
      pure (empty, t.stop)
    | _ =>
      push .indentlessSequenceEntry
      node true false
  | _ =>
    pop
    pure (.sequenceEnd, t.start)

/-- Reads a key of a block mapping, or its end. -/
def blockMappingKey (first : Bool) : GrammarM (Event × Mark) := do
  if first then
    pushMark (← peek).start
    skipToken
  let t ← peek
  match t.kind with
  | .key =>
    skipToken
    let t2 ← peek
    match t2.kind with
    | .key | .value | .blockEnd =>
      goTo .blockMappingValue
      pure (empty, t.stop)
    | _ =>
      push .blockMappingValue
      node true true
  | .blockEnd =>
    pop
    let _ ← popMark
    skipToken
    pure (.mappingEnd, t.start)
  | _ =>
    let m ← popMark
    failIn "while parsing a block mapping" m "did not find expected key" t.start

/-- Reads a value of a block mapping, empty when there is none. -/
def blockMappingValue : GrammarM (Event × Mark) := do
  let t ← peek
  match t.kind with
  | .value =>
    skipToken
    let t2 ← peek
    match t2.kind with
    | .key | .value | .blockEnd =>
      goTo .blockMappingKey
      pure (empty, t.stop)
    | _ =>
      push .blockMappingKey
      node true true
  | _ =>
    goTo .blockMappingKey
    pure (empty, t.start)

/-! ## Flow collections -/

/-- Ends a flow collection at its closing token. -/
def closeFlow (e : Event) (t : Token) : GrammarM (Event × Mark) := do
  pop
  let _ ← popMark
  skipToken
  pure (e, t.start)

/-- Reads an entry of a flow sequence, or its end; `key: value` entries are one-pair mappings. -/
def flowSequenceEntry (first : Bool) : GrammarM (Event × Mark) := do
  if first then
    pushMark (← peek).start
    skipToken
  let t ← peek
  if t.kind matches .flowSequenceEnd then closeFlow .sequenceEnd t
  else
    let t ←
      if first then pure t
      else if t.kind matches .flowEntry then do
        skipToken
        peek
      else do
        let m ← popMark
        failIn "while parsing a flow sequence" m "did not find expected ',' or ']'" t.start
    match t.kind with
    | .key =>
      goTo .flowSequenceEntryMappingKey
      skipToken
      pure (.mappingStart none none, t.start)
    | .flowSequenceEnd => closeFlow .sequenceEnd t
    | _ =>
      push .flowSequenceEntry
      node false false

/-- Reads the key of a one-pair mapping in a flow sequence. -/
def flowSequenceEntryMappingKey : GrammarM (Event × Mark) := do
  let t ← peek
  match t.kind with
  | .value | .flowEntry | .flowSequenceEnd =>
    goTo .flowSequenceEntryMappingValue
    pure (empty, t.start)
  | _ =>
    push .flowSequenceEntryMappingValue
    node false false

/-- Reads the value of a one-pair mapping in a flow sequence. -/
def flowSequenceEntryMappingValue : GrammarM (Event × Mark) := do
  let t ← peek
  match t.kind with
  | .value =>
    skipToken
    let t2 ← peek
    match t2.kind with
    | .flowEntry | .flowSequenceEnd =>
      goTo .flowSequenceEntryMappingEnd
      pure (empty, t2.start)
    | _ =>
      push .flowSequenceEntryMappingEnd
      node false false
  | _ =>
    goTo .flowSequenceEntryMappingEnd
    pure (empty, t.start)

/-- Ends a one-pair mapping in a flow sequence. -/
def flowSequenceEntryMappingEnd : GrammarM (Event × Mark) := do
  let t ← peek
  goTo .flowSequenceEntry
  pure (.mappingEnd, t.start)

/-- Reads a key of a flow mapping, or its end. -/
def flowMappingKey (first : Bool) : GrammarM (Event × Mark) := do
  if first then
    pushMark (← peek).start
    skipToken
  let t ← peek
  if t.kind matches .flowMappingEnd then closeFlow .mappingEnd t
  else
    let t ←
      if first then pure t
      else if t.kind matches .flowEntry then do
        skipToken
        peek
      else do
        let m ← popMark
        failIn "while parsing a flow mapping" m "did not find expected ',' or '\x7d'" t.start
    match t.kind with
    | .key =>
      skipToken
      let t2 ← peek
      match t2.kind with
      | .value | .flowEntry | .flowMappingEnd =>
        goTo .flowMappingValue
        pure (empty, t2.start)
      | _ =>
        push .flowMappingValue
        node false false
    | .flowMappingEnd => closeFlow .mappingEnd t
    | _ =>
      push .flowMappingEmptyValue
      node false false

/-- Reads a value of a flow mapping; a key given alone has an empty value. -/
def flowMappingValue (alone : Bool) : GrammarM (Event × Mark) := do
  let t ← peek
  if alone then
    goTo .flowMappingKey
    pure (empty, t.start)
  else
    match t.kind with
    | .value =>
      skipToken
      let t2 ← peek
      match t2.kind with
      | .flowEntry | .flowMappingEnd =>
        goTo .flowMappingKey
        pure (empty, t2.start)
      | _ =>
        push .flowMappingKey
        node false false
    | _ =>
      goTo .flowMappingKey
      pure (empty, t.start)

/-! ## The state machine -/

/-- Starts the stream. -/
def streamStart : GrammarM (Event × Mark) := do
  let t ← peek
  if !(t.kind matches .streamStart) then fail "did not find expected <stream-start>" t.start
  goTo .implicitDocumentStart
  skipToken
  pure (.streamStart, t.start)

/-- The next event and where it starts. -/
def next : GrammarM (Event × Mark) := do
  match (← get).phase with
  | .streamStart => streamStart
  | .implicitDocumentStart => documentStart true
  | .documentStart => documentStart false
  | .documentContent => documentContent
  | .documentEnd => documentEnd
  | .blockNode => node true false
  | .blockSequenceFirstEntry => blockSequenceEntry true
  | .blockSequenceEntry => blockSequenceEntry false
  | .indentlessSequenceEntry => indentlessSequenceEntry
  | .blockMappingFirstKey => blockMappingKey true
  | .blockMappingKey => blockMappingKey false
  | .blockMappingValue => blockMappingValue
  | .flowSequenceFirstEntry => flowSequenceEntry true
  | .flowSequenceEntry => flowSequenceEntry false
  | .flowSequenceEntryMappingKey => flowSequenceEntryMappingKey
  | .flowSequenceEntryMappingValue => flowSequenceEntryMappingValue
  | .flowSequenceEntryMappingEnd => flowSequenceEntryMappingEnd
  | .flowMappingFirstKey => flowMappingKey true
  | .flowMappingKey => flowMappingKey false
  | .flowMappingValue => flowMappingValue false
  | .flowMappingEmptyValue => flowMappingValue true
  | .finished => pure (.streamEnd, (← get).lexer.mark)

end Grammar

end PartCache.Yaml
