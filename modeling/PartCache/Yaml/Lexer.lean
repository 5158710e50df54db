import PartCache.Yaml.Token

/-!
# Scanning YAML text into tokens

The scanner turns characters into tokens on demand.  Most of YAML's block
structure is decided here, by indentation:

* Each deeper block collection opens an indentation level, announced by a
  block-sequence or block-mapping start token; going back to a shallower column
  closes levels with block-end tokens.
* A mapping key needs no `?` when it fits on one line: a *simple key*.  Wherever
  one could start, the scanner notes the place and the number the next token
  would take.  When a `:` follows, the key token (and a block-mapping start, if
  the column opens a level) is inserted before that token, after the fact.
* A noted simple key that cannot be completed is dropped, or is an error when
  the grammar needs it (a block-context line at the level's own column).

The grammar asks for one token at a time.  The scanner reads ahead only as far as
it must: while a noted simple key could still turn the front token into a key,
it keeps scanning.  Errors are raised as they are met, so what the grammar has
already seen before an error stands.
-/

namespace PartCache.Yaml

set_option autoImplicit false

/-- A place where a simple key could begin, and the number the key's first token would take. -/
structure SimpleKey where
  possible : Bool
  required : Bool
  tokenNumber : Nat
  mark : Mark
  deriving Inhabited

/-- The scanner's state. -/
structure Lexer where
  rest : List Char
  mark : Mark := Mark.origin
  /-- A character the stream may not hold, reported when the first token is asked for. -/
  fault : Option SyntaxError := none
  queue : List Token := []
  /-- How many tokens the grammar has taken. -/
  parsed : Nat := 0
  started : Bool := false
  indent : Int := -1
  indents : List Int := []
  keyAllowed : Bool := false
  /-- One entry per flow level, the innermost first. -/
  keys : List SimpleKey := []
  flowLevel : Nat := 0
  deriving Inhabited

/-- Scanning steps: they change the scanner and may fail with a syntax error. -/
abbrev LexM := StateT Lexer (Except SyntaxError)

namespace Lexer

/-- A scanner at the start of a text. A byte order mark stays in the text: the scanner
passes over one wherever it stands at the start of a line, counting it as one column. -/
def start (input : String) : Lexer :=
  let cs := input.toList
  let fault := (firstDisallowed cs).map fun off =>
    ({ problem := "control characters are not allowed", problemMark := Mark.origin,
       offset := off } : SyntaxError)
  { rest := cs, fault }

/-! ## Looking ahead -/

/-- Whether the character `k` places ahead is `c`. -/
def isAt (s : Lexer) (k : Nat) (c : Char) : Bool := s.rest[k]? == some c

/-- Whether the character `k` places ahead is a blank or a break, or the text ends before it. -/
def blankzAt (s : Lexer) (k : Nat) : Bool :=
  match s.rest[k]? with
  | none => true
  | some c => isBlank c || isBreak c

/-- Whether the character `k` places ahead is a break, or the text ends before it. -/
def breakzAt (s : Lexer) (k : Nat) : Bool :=
  match s.rest[k]? with
  | none => true
  | some c => isBreak c

/-- Whether the character `k` places ahead is a blank. -/
def blankAt (s : Lexer) (k : Nat) : Bool :=
  match s.rest[k]? with
  | none => false
  | some c => isBlank c

/-- Whether the character `k` places ahead is a break. -/
def breakAt (s : Lexer) (k : Nat) : Bool :=
  match s.rest[k]? with
  | none => false
  | some c => isBreak c

/-- Whether the next character is one of `cs`. -/
def atOneOf (s : Lexer) (k : Nat) (cs : List Char) : Bool :=
  match s.rest[k]? with
  | none => false
  | some c => cs.contains c

/-- Whether a line starts here with a document marker, `---` or `...` followed by a blank. -/
def atDocumentMarker (s : Lexer) : Bool :=
  s.mark.column == 0 &&
    ((s.isAt 0 '-' && s.isAt 1 '-' && s.isAt 2 '-') ||
      (s.isAt 0 '.' && s.isAt 1 '.' && s.isAt 2 '.')) && s.blankzAt 3

/-! ## Moving -/

/-- Moves past one character of a line. -/
def advance (s : Lexer) : Lexer :=
  match s.rest with
  | [] => s
  | c :: r => { s with rest := r, mark := ⟨s.mark.index + c.utf8Size, s.mark.line, s.mark.column + 1⟩ }

/-- Moves past a line break, CR LF counting as one. -/
def advanceLine (s : Lexer) : Lexer :=
  match s.rest with
  | '\r' :: '\n' :: r => { s with rest := r, mark := ⟨s.mark.index + 2, s.mark.line + 1, 0⟩ }
  | c :: r =>
    if isBreak c then { s with rest := r, mark := ⟨s.mark.index + c.utf8Size, s.mark.line + 1, 0⟩ }
    else s
  | [] => s

/-- Moves past one character. -/
def skip : LexM Unit := modify advance

/-- Moves past one line break. -/
def skipLine : LexM Unit := modify advanceLine

/-- Moves past one character, appending it to `acc`. -/
def read (acc : String) : LexM String := do
  let s ← get
  match s.rest with
  | c :: _ =>
    set s.advance
    pure (acc.push c)
  | [] => pure acc

/-- Moves past a line break, appending it to `acc`: CR, LF, CR LF and NEL as LF, the
separators as themselves. -/
def readLine (acc : String) : LexM String := do
  let s ← get
  match s.rest with
  | '\r' :: '\n' :: _ =>
    set s.advanceLine
    pure (acc.push '\n')
  | c :: _ =>
    if c == '\r' || c == '\n' || c == '\u0085' then
      set s.advanceLine
      pure (acc.push '\n')
    else if c == '\u2028' || c == '\u2029' then
      set s.advanceLine
      pure (acc.push c)
    else pure acc
  | [] => pure acc

/-- How many steps a loop over the rest of the text may take. -/
def budget : LexM Nat := do pure ((← get).rest.length + 1)

/-- Moves past characters while `p` holds. -/
def skipWhile (p : Lexer → Bool) : LexM Unit := do
  for _ in [0:← budget] do
    if p (← get) then skip else break

/-- Moves past characters while `p` holds, appending them to `acc`. -/
def readWhile (p : Lexer → Bool) (acc : String) : LexM String := do
  let mut acc := acc
  for _ in [0:← budget] do
    if p (← get) then acc ← read acc else break
  pure acc

/-- Fails at the current position, naming what was being read and where it began. -/
def fail {α : Type} (context : String) (contextMark : Mark) (problem : String) : LexM α := do
  throw { problem, problemMark := (← get).mark, context := some context, contextMark }

/-- Fails at the current position with no context. -/
def failHere {α : Type} (problem : String) : LexM α := do
  throw { problem, problemMark := (← get).mark }

/-! ## Simple keys and indentation -/

/-- Drops noted keys that can no longer be completed: those on an earlier line or more
than 1024 bytes back.  A required one is an error. -/
def staleKeys : LexM Unit := do
  let s ← get
  let stale := fun (k : SimpleKey) =>
    k.possible && (decide (k.mark.line < s.mark.line) || decide (k.mark.index + 1024 < s.mark.index))
  match s.keys.reverse.find? (fun k => stale k && k.required) with
  | some k => fail "while scanning a simple key" k.mark "could not find expected ':'"
  | none => set { s with keys := s.keys.map fun k => if stale k then { k with possible := false } else k }

/-- Drops the innermost noted key; a required one is an error. -/
def removeKey : LexM Unit := do
  let s ← get
  match s.keys with
  | k :: r =>
    if k.possible && k.required then
      fail "while scanning a simple key" k.mark "could not find expected ':'"
    else set { s with keys := { k with possible := false } :: r }
  | [] => pure ()

/-- Notes that a simple key could begin here, if one may. -/
def saveKey : LexM Unit := do
  let s ← get
  if s.keyAllowed then
    let key : SimpleKey :=
      ⟨true, s.flowLevel == 0 && s.indent == (s.mark.column : Int), s.parsed + s.queue.length, s.mark⟩
    removeKey
    modify fun s => { s with keys := key :: s.keys.drop 1 }

/-- Enters a flow collection. -/
def enterFlow : LexM Unit :=
  modify fun s =>
    { s with keys := ⟨false, false, 0, Mark.origin⟩ :: s.keys, flowLevel := s.flowLevel + 1 }

/-- Leaves a flow collection. -/
def leaveFlow : LexM Unit :=
  modify fun s =>
    if s.flowLevel == 0 then s else { s with flowLevel := s.flowLevel - 1, keys := s.keys.drop 1 }

/-- Queues a token. -/
def emit (kind : TokenKind) (start stop : Mark) : LexM Unit :=
  modify fun s => { s with queue := s.queue ++ [⟨kind, start, stop⟩] }

/-- Opens an indentation level at `column` in block context, if it is deeper, with a start
token queued last or inserted as token number `number`. -/
def rollIndent (column : Nat) (number : Option Nat) (kind : TokenKind) (mark : Mark) :
    LexM Unit :=
  modify fun s =>
    if s.flowLevel == 0 && s.indent < (column : Int) then
      let t : Token := ⟨kind, mark, mark⟩
      { s with
        indents := s.indent :: s.indents
        indent := column
        queue := match number with
          | none => s.queue ++ [t]
          | some n => s.queue.insertIdx (n - s.parsed) t }
    else s

/-- Closes the levels deeper than `column`, with a block end for each. -/
def unwind (mark : Mark) (column : Int) : Int → List Int → List Token → Int × List Int × List Token
  | indent, top :: rest, acc =>
    if indent > column then unwind mark column top rest (acc ++ [⟨.blockEnd, mark, mark⟩])
    else (indent, top :: rest, acc)
  | indent, [], acc => (indent, [], acc)

/-- Closes the indentation levels deeper than `column`, in block context. -/
def unrollIndent (column : Int) : LexM Unit :=
  modify fun s =>
    if s.flowLevel == 0 then
      let (indent, indents, ends) := unwind s.mark column s.indent s.indents []
      { s with indent, indents, queue := s.queue ++ ends }
    else s

/-! ## Stream start and end, and the space between tokens -/

/-- Starts the stream. -/
def streamStart : LexM Unit := do
  modify fun s =>
    { s with indent := -1, keys := [⟨false, false, 0, Mark.origin⟩], keyAllowed := true,
             started := true }
  let m := (← get).mark
  emit .streamStart m m

/-- Ends the stream, on a fresh line. -/
def streamEnd : LexM Unit := do
  modify fun s =>
    if s.mark.column != 0 then { s with mark := ⟨s.mark.index, s.mark.line + 1, 0⟩ } else s
  unrollIndent (-1)
  removeKey
  modify fun s => { s with keyAllowed := false }
  let m := (← get).mark
  emit .streamEnd m m

/-- Moves past blanks, comments and line breaks up to the next token.  Tabs count as blanks
only where a simple key may not start; a new line in block context allows one. -/
def toNextToken : LexM Unit := do
  for _ in [0:← budget] do
    let s ← get
    if s.mark.column == 0 && s.isAt 0 '\uFEFF' then skip
    skipWhile fun s => s.isAt 0 ' ' || ((s.flowLevel > 0 || !s.keyAllowed) && s.isAt 0 '\t')
    if (← get).isAt 0 '#' then skipWhile fun s => !s.breakzAt 0
    if (← get).breakAt 0 then
      skipLine
      modify fun s => if s.flowLevel == 0 then { s with keyAllowed := true } else s
    else break

/-! ## Directives -/

/-- Reads a directive's name. -/
def directiveName (start : Mark) : LexM String := do
  let name ← readWhile (fun s => (s.rest.head?.map isWordChar).getD false) ""
  if name.isEmpty then
    fail "while scanning a directive" start "could not find expected directive name"
  if !(← get).blankzAt 0 then
    fail "while scanning a directive" start "found unexpected non-alphabetical character"
  pure name

/-- Reads one number of a `%YAML` version, at most nine digits. -/
def versionNumber (start : Mark) : LexM Nat := do
  let mut value := 0
  let mut length := 0
  for _ in [0:← budget] do
    match (← get).rest.head? with
    | some c =>
      if '0' ≤ c && c ≤ '9' then
        length := length + 1
        if length > 9 then
          fail "while scanning a %YAML directive" start "found extremely long version number"
        value := value * 10 + (c.toNat - '0'.toNat)
        skip
      else break
    | none => break
  if length == 0 then
    fail "while scanning a %YAML directive" start "did not find expected version number"
  pure value

/-- Reads the version of a `%YAML` directive. -/
def versionValue (start : Mark) : LexM (Nat × Nat) := do
  skipWhile fun s => s.blankAt 0
  let major ← versionNumber start
  if !(← get).isAt 0 '.' then
    fail "while scanning a %YAML directive" start "did not find expected digit or '.' character"
  skip
  let minor ← versionNumber start
  pure (major, minor)

/-- Reads a tag handle: `!`, `!!` or `!word!`. -/
def tagHandle (directive : Bool) (start : Mark) : LexM String := do
  if !(← get).isAt 0 '!' then
    fail (if directive then "while scanning a tag directive" else "while scanning a tag") start
      "did not find expected '!'"
  let h ← read ""
  let h ← readWhile (fun s => (s.rest.head?.map isWordChar).getD false) h
  if (← get).isAt 0 '!' then read h
  else
    if directive && h != "!" then
      fail "while parsing a tag directive" start "did not find expected '!'"
    pure h

/-- Reads `%`-escaped octets making up one UTF-8 character. -/
def uriEscapes (directive : Bool) (start : Mark) : LexM (List UInt8) := do
  let ctx := if directive then "while parsing a %TAG directive" else "while parsing a tag"
  let mut width := 0
  let mut bytes : List UInt8 := []
  for _ in [0:5] do
    let s ← get
    let hi := (s.rest[1]?).bind hexValue
    let lo := (s.rest[2]?).bind hexValue
    match s.isAt 0 '%', hi, lo with
    | true, some h, some l =>
      let octet := h * 16 + l
      if width == 0 then
        width := if octet < 0x80 then 1 else if octet / 32 == 6 then 2
          else if octet / 16 == 14 then 3 else if octet / 8 == 30 then 4 else 0
        if width == 0 then fail ctx start "found an incorrect leading UTF-8 octet"
      else if octet / 64 != 2 then fail ctx start "found an incorrect trailing UTF-8 octet"
      bytes := bytes ++ [octet.toUInt8]
      skip
      skip
      skip
      width := width - 1
      if width == 0 then break
    | _, _, _ => fail ctx start "did not find URI escaped octet"
  pure bytes

/-- Characters a tag may hold; flow indicators only in verbatim tags and directive prefixes. -/
def isUriChar (withFlow : Bool) (c : Char) : Bool :=
  isWordChar c || ";/?:@&=+$.%!~*'()".contains c || (withFlow && ",[]".contains c)

/-- Reads the URI part of a tag, after the text of `head` without its first character. -/
def tagUri (withFlow directive : Bool) (head : String) (start : Mark) : LexM Tag := do
  let mut length := head.length
  let mut acc := (Tag.ofString (String.ofList (head.toList.drop 1))).bytes
  for _ in [0:← budget] do
    let s ← get
    match s.rest.head? with
    | some c =>
      if isUriChar withFlow c then
        if c == '%' then acc := acc ++ (← uriEscapes directive start)
        else
          skip
          acc := acc ++ (Tag.ofString (String.singleton c)).bytes
        length := length + 1
      else break
    | none => break
  if length == 0 then
    fail (if directive then "while parsing a %TAG directive" else "while parsing a tag") start
      "did not find expected tag URI"
  pure ⟨acc⟩

/-- Reads the handle and prefix of a `%TAG` directive. -/
def tagDirectiveValue (start : Mark) : LexM (String × Tag) := do
  skipWhile fun s => s.blankAt 0
  let handle ← tagHandle true start
  if !(← get).blankAt 0 then
    fail "while scanning a %TAG directive" start "did not find expected whitespace"
  skipWhile fun s => s.blankAt 0
  let pfx ← tagUri true true "" start
  if !(← get).blankzAt 0 then
    fail "while scanning a %TAG directive" start "did not find expected whitespace or line break"
  pure (handle, pfx)

/-- Scans a directive line. -/
def directive : LexM Unit := do
  unrollIndent (-1)
  removeKey
  modify fun s => { s with keyAllowed := false }
  let start := (← get).mark
  skip
  let name ← directiveName start
  let kind ←
    if name == "YAML" then do
      let (major, minor) ← versionValue start
      pure (TokenKind.versionDirective major minor)
    else if name == "TAG" then do
      let (handle, pfx) ← tagDirectiveValue start
      pure (TokenKind.tagDirective handle pfx)
    else fail "while scanning a directive" start "found unknown directive name"
  let stop := (← get).mark
  skipWhile fun s => s.blankAt 0
  if (← get).isAt 0 '#' then skipWhile fun s => !s.breakzAt 0
  if !(← get).breakzAt 0 then
    fail "while scanning a directive" start "did not find expected comment or line break"
  if (← get).breakAt 0 then skipLine
  emit kind start stop

/-! ## Indicators -/

/-- Scans `---` or `...`. -/
def documentIndicator (kind : TokenKind) : LexM Unit := do
  unrollIndent (-1)
  removeKey
  modify fun s => { s with keyAllowed := false }
  let start := (← get).mark
  skip
  skip
  skip
  emit kind start (← get).mark

/-- Scans `[` or `{`. -/
def flowStart (kind : TokenKind) : LexM Unit := do
  saveKey
  enterFlow
  modify fun s => { s with keyAllowed := true }
  let start := (← get).mark
  skip
  emit kind start (← get).mark

/-- Scans `]` or `}`. -/
def flowEnd (kind : TokenKind) : LexM Unit := do
  removeKey
  leaveFlow
  modify fun s => { s with keyAllowed := false }
  let start := (← get).mark
  skip
  emit kind start (← get).mark

/-- Scans `,`. -/
def flowEntry : LexM Unit := do
  removeKey
  modify fun s => { s with keyAllowed := true }
  let start := (← get).mark
  skip
  emit .flowEntry start (← get).mark

/-- Scans `-` introducing a block sequence entry. -/
def blockEntry : LexM Unit := do
  let s ← get
  if s.flowLevel == 0 then
    if !s.keyAllowed then failHere "block sequence entries are not allowed in this context"
    rollIndent s.mark.column none .blockSequenceStart s.mark
  removeKey
  modify fun s => { s with keyAllowed := true }
  let start := (← get).mark
  skip
  emit .blockEntry start (← get).mark

/-- Scans `?` introducing a complex key. -/
def complexKey : LexM Unit := do
  let s ← get
  if s.flowLevel == 0 then
    if !s.keyAllowed then failHere "mapping keys are not allowed in this context"
    rollIndent s.mark.column none .blockMappingStart s.mark
  removeKey
  modify fun s => { s with keyAllowed := s.flowLevel == 0 }
  let start := (← get).mark
  skip
  emit .key start (← get).mark

/-- Scans `:`.  When a simple key was noted, its key token (and a mapping start, if it opens
a level) goes in before the key's first token. -/
def valueIndicator : LexM Unit := do
  let s ← get
  match s.keys with
  | k :: r =>
    if k.possible then
      set { s with
        queue := s.queue.insertIdx (k.tokenNumber - s.parsed) ⟨.key, k.mark, k.mark⟩
        keys := { k with possible := false } :: r }
      rollIndent k.mark.column (some k.tokenNumber) .blockMappingStart k.mark
      modify fun s => { s with keyAllowed := false }
    else
      if s.flowLevel == 0 then
        if !s.keyAllowed then failHere "mapping values are not allowed in this context"
        rollIndent s.mark.column none .blockMappingStart s.mark
      modify fun s => { s with keyAllowed := s.flowLevel == 0 }
  | [] => pure ()
  let start := (← get).mark
  skip
  emit .value start (← get).mark

/-- Scans an anchor `&name` or an alias `*name`. -/
def anchorOrAlias (isAnchor : Bool) : LexM Unit := do
  saveKey
  modify fun s => { s with keyAllowed := false }
  let start := (← get).mark
  skip
  let name ← readWhile (fun s => (s.rest.head?.map isWordChar).getD false) ""
  let stop := (← get).mark
  let s ← get
  if name.isEmpty || !(s.blankzAt 0 || s.atOneOf 0 ['?', ':', ',', ']', '\x7d', '%', '@', '\x60']) then
    fail (if isAnchor then "while scanning an anchor" else "while scanning an alias") start
      "did not find expected alphabetic or numeric character"
  emit (if isAnchor then .anchor name else .alias name) start stop

/-- Scans a tag: verbatim `!<uri>`, a handle and suffix, or `!` alone. -/
def tag : LexM Unit := do
  saveKey
  modify fun s => { s with keyAllowed := false }
  let start := (← get).mark
  let (handle, suffix) ←
    if (← get).isAt 1 '<' then do
      skip
      skip
      let suffix ← tagUri true false "" start
      if !(← get).isAt 0 '>' then fail "while scanning a tag" start "did not find the expected '>'"
      skip
      pure ("", suffix)
    else do
      let h ← tagHandle false start
      if h.length ≥ 2 && h.back == '!' then
        let suffix ← tagUri false false "" start
        pure (h, suffix)
      else
        let suffix ← tagUri false false h start
        if suffix.terminated.isEmpty then pure ("", Tag.ofString "!") else pure ("!", suffix)
  let s ← get
  if !s.blankzAt 0 then
    if s.flowLevel == 0 || !s.isAt 0 ',' then
      fail "while scanning a tag" start "did not find expected whitespace or line break"
  emit (.tag handle suffix) start (← get).mark

/-! ## Block scalars -/

/-- Reads the empty lines and indentation before a block scalar's next line.  With no
indentation fixed yet, it becomes the deepest seen, at least one more than the enclosing
level and at least one. -/
def blockBreaks (indent : Nat) (start : Mark) : LexM (Nat × String × Mark) := do
  let mut maxIndent := 0
  let mut breaks := ""
  let mut stop := (← get).mark
  for _ in [0:← budget] do
    skipWhile fun s => (indent == 0 || s.mark.column < indent) && s.isAt 0 ' '
    let s ← get
    if s.mark.column > maxIndent then maxIndent := s.mark.column
    if (indent == 0 || s.mark.column < indent) && s.isAt 0 '\t' then
      fail "while scanning a block scalar" start
        "found a tab character where an indentation space is expected"
    if !s.breakAt 0 then break
    breaks ← readLine breaks
    stop := (← get).mark
  let level := (← get).indent
  let indent :=
    if indent == 0 then max 1 (max maxIndent (level + 1).toNat) else indent
  pure (indent, breaks, stop)

/-- Reads a block scalar's header: chomping (`+` keep, `-` strip) and indentation indicator. -/
def blockHeader (start : Mark) : LexM (Int × Nat) := do
  let chompOf := fun (s : Lexer) => if s.isAt 0 '+' then (1 : Int) else -1
  let isDigit := fun (s : Lexer) => match s.rest.head? with
    | some c => '0' ≤ c && c ≤ '9'
    | none => false
  let digit := fun (s : Lexer) => match s.rest.head? with
    | some c => c.toNat - '0'.toNat
    | none => 0
  let s ← get
  if s.isAt 0 '+' || s.isAt 0 '-' then
    let chomping := chompOf s
    skip
    let s ← get
    if isDigit s then
      if s.isAt 0 '0' then
        fail "while scanning a block scalar" start "found an indentation indicator equal to 0"
      skip
      pure (chomping, digit s)
    else pure (chomping, 0)
  else if isDigit s then
    if s.isAt 0 '0' then
      fail "while scanning a block scalar" start "found an indentation indicator equal to 0"
    skip
    let s' ← get
    if s'.isAt 0 '+' || s'.isAt 0 '-' then
      skip
      pure (chompOf s', digit s)
    else pure (0, digit s)
  else pure (0, 0)

/-- Scans a literal (`|`) or folded (`>`) block scalar. -/
def blockScalar (literal : Bool) : LexM Unit := do
  removeKey
  modify fun s => { s with keyAllowed := true }
  let start := (← get).mark
  skip
  let (chomping, increment) ← blockHeader start
  skipWhile fun s => s.blankAt 0
  if (← get).isAt 0 '#' then skipWhile fun s => !s.breakzAt 0
  if !(← get).breakzAt 0 then
    fail "while scanning a block scalar" start "did not find expected comment or line break"
  if (← get).breakAt 0 then skipLine
  let level := (← get).indent
  let indent := if increment != 0 then (if level ≥ 0 then level.toNat + increment else increment)
    else 0
  let (indent, trailing, stop) ← blockBreaks indent start
  let mut indent := indent
  let mut trailing := trailing
  let mut stop := stop
  let mut text := ""
  let mut leadingBreak := ""
  let mut leadingBlank := false
  for _ in [0:← budget] do
    let s ← get
    if !(s.mark.column == indent && !s.rest.isEmpty) then break
    let trailingBlank := s.blankAt 0
    if !literal && leadingBreak.front == '\n' && !leadingBlank && !trailingBlank then
      if trailing.isEmpty then text := text.push ' '
      leadingBreak := ""
    else
      text := text ++ leadingBreak
      leadingBreak := ""
    text := text ++ trailing
    trailing := ""
    leadingBlank := s.blankAt 0
    text ← readWhile (fun s => !s.breakzAt 0) text
    leadingBreak ← readLine ""
    let (i, t, m) ← blockBreaks indent start
    indent := i
    trailing := t
    stop := m
  if chomping != -1 then text := text ++ leadingBreak
  if chomping == 1 then text := text ++ trailing
  emit (.scalar text (if literal then .literal else .folded)) start stop

/-! ## Quoted scalars -/

/-- The character a one-letter escape stands for. -/
def escapeChar : Char → Option Char
  | '0' => some '\x00'
  | 'a' => some '\x07'
  | 'b' => some '\x08'
  | 't' => some '\t'
  | '\t' => some '\t'
  | 'n' => some '\n'
  | 'v' => some '\x0b'
  | 'f' => some '\x0c'
  | 'r' => some '\r'
  | 'e' => some '\x1b'
  | ' ' => some ' '
  | '"' => some '"'
  | '/' => some '/'
  | '\'' => some '\''
  | '\\' => some '\\'
  | 'N' => some '\u0085'
  | '_' => some '\u00A0'
  | 'L' => some '\u2028'
  | 'P' => some '\u2029'
  | _ => none

/-- How many hex digits follow an escape that gives a code point. -/
def escapeWidth : Char → Nat
  | 'x' => 2
  | 'u' => 4
  | 'U' => 8
  | _ => 0

/-- Reads one escape sequence of a double-quoted scalar. -/
def escape (start : Mark) (acc : String) : LexM String := do
  let s ← get
  let e := (s.rest[1]?).getD ' '
  let width := escapeWidth e
  let single := if width == 0 then escapeChar e else none
  if width == 0 && single.isNone then
    fail "while parsing a quoted scalar" start "found unknown escape character"
  skip
  skip
  match single with
  | some c => pure (acc.push c)
  | none =>
    let s ← get
    let digits := (s.rest.take width).filterMap hexValue
    if digits.length != width then
      fail "while parsing a quoted scalar" start "did not find expected hexadecimal number"
    let value := digits.foldl (fun v d => v * 16 + d) 0
    if (0xD800 ≤ value && value ≤ 0xDFFF) || value > 0x10FFFF then
      fail "while parsing a quoted scalar" start "found invalid Unicode character escape code"
    for _ in [0:width] do skip
    pure (acc.push (Char.ofNat value))

/-- Joins a folded line break into a scalar: one LF becomes a space unless empty lines
follow, which are kept instead; other breaks are kept as they are. -/
def fold (text leadingBreak trailing : String) : String :=
  if leadingBreak.front == '\n' then
    if trailing.isEmpty then text.push ' ' else text ++ trailing
  else text ++ leadingBreak ++ trailing

/-- Scans a single- or double-quoted scalar. -/
def quotedScalar (single : Bool) : LexM Unit := do
  saveKey
  modify fun s => { s with keyAllowed := false }
  let start := (← get).mark
  skip
  let quote := if single then '\'' else '"'
  let mut text := ""
  for _ in [0:← budget] do
    let s ← get
    if s.atDocumentMarker then
      fail "while scanning a quoted scalar" start "found unexpected document indicator"
    if s.rest.isEmpty then
      fail "while scanning a quoted scalar" start "found unexpected end of stream"
    let mut leadingBlanks := false
    for _ in [0:← budget] do
      let s ← get
      if s.blankzAt 0 then break
      if single && s.isAt 0 '\'' && s.isAt 1 '\'' then
        text := text.push '\''
        skip
        skip
      else if s.isAt 0 quote then break
      else if !single && s.isAt 0 '\\' && s.breakAt 1 then
        skip
        skipLine
        leadingBlanks := true
        break
      else if !single && s.isAt 0 '\\' then
        text ← escape start text
      else text ← read text
    if (← get).isAt 0 quote then break
    let mut whitespaces := ""
    let mut leadingBreak := ""
    let mut trailing := ""
    for _ in [0:← budget] do
      let s ← get
      if s.blankAt 0 then
        if !leadingBlanks then whitespaces ← read whitespaces else skip
      else if s.breakAt 0 then
        if !leadingBlanks then
          whitespaces := ""
          leadingBreak ← readLine ""
          leadingBlanks := true
        else trailing ← readLine trailing
      else break
    if leadingBlanks then text := fold text leadingBreak trailing
    else text := text ++ whitespaces
  skip
  emit (.scalar text (if single then .singleQuoted else .doubleQuoted)) start (← get).mark

/-! ## Plain scalars -/

/-- Scans a plain scalar, which may run over several lines deeper than the enclosing level. -/
def plainScalar : LexM Unit := do
  saveKey
  modify fun s => { s with keyAllowed := false }
  let s ← get
  let indent : Int := s.indent + 1
  let start := s.mark
  let mut stop := s.mark
  let mut text := ""
  let mut leadingBreak := ""
  let mut trailing := ""
  let mut whitespaces := ""
  let mut leadingBlanks := false
  for _ in [0:← budget] do
    let s ← get
    if s.atDocumentMarker then break
    if s.isAt 0 '#' then break
    for _ in [0:← budget] do
      let s ← get
      if s.blankzAt 0 then break
      if s.flowLevel > 0 && s.isAt 0 ':' && s.atOneOf 1 [',', '?', '[', ']', '\x7b', '\x7d'] then
        fail "while scanning a plain scalar" start "found unexpected ':'"
      if (s.isAt 0 ':' && s.blankzAt 1) ||
          (s.flowLevel > 0 && s.atOneOf 0 [',', '[', ']', '\x7b', '\x7d']) then break
      if leadingBlanks then
        text := fold text leadingBreak trailing
        leadingBreak := ""
        trailing := ""
        leadingBlanks := false
      else if !whitespaces.isEmpty then
        text := text ++ whitespaces
        whitespaces := ""
      text ← read text
      stop := (← get).mark
    let s ← get
    if !(s.blankAt 0 || s.breakAt 0) then break
    for _ in [0:← budget] do
      let s ← get
      if s.blankAt 0 then
        if leadingBlanks && (s.mark.column : Int) < indent && s.isAt 0 '\t' then
          fail "while scanning a plain scalar" start "found a tab character that violates indentation"
        if !leadingBlanks then whitespaces ← read whitespaces else skip
      else if s.breakAt 0 then
        if !leadingBlanks then
          whitespaces := ""
          leadingBreak ← readLine ""
          leadingBlanks := true
        else trailing ← readLine trailing
      else break
    let s ← get
    if s.flowLevel == 0 && (s.mark.column : Int) < indent then break
  emit (.scalar text .plain) start stop
  if leadingBlanks then modify fun s => { s with keyAllowed := true }

/-! ## Fetching tokens -/

/-- Whether a plain scalar may start here. -/
def plainStarts (s : Lexer) : Bool :=
  match s.rest.head? with
  | none => false
  | some c =>
    !(isBlank c || isBreak c || "-?:,[]\x7b\x7d#&*!|>'\"%@\x60".contains c) ||
      (c == '-' && !s.blankAt 1) ||
      (s.flowLevel == 0 && (c == '?' || c == ':') && !s.blankzAt 1)

/-- Scans the next token, or several when a simple key or indentation change is resolved. -/
def fetchNext : LexM Unit := do
  if let some e := (← get).fault then throw e
  if !(← get).started then streamStart
  else
    toNextToken
    staleKeys
    unrollIndent (← get).mark.column
    let s ← get
    let flow := s.flowLevel > 0
    match s.rest.head? with
    | none => streamEnd
    | some c =>
      if s.mark.column == 0 && c == '%' then directive
      else if s.mark.column == 0 && s.isAt 0 '-' && s.isAt 1 '-' && s.isAt 2 '-' && s.blankzAt 3 then
        documentIndicator .documentStart
      else if s.mark.column == 0 && s.isAt 0 '.' && s.isAt 1 '.' && s.isAt 2 '.' && s.blankzAt 3 then
        documentIndicator .documentEnd
      else if c == '[' then flowStart .flowSequenceStart
      else if c == '\x7b' then flowStart .flowMappingStart
      else if c == ']' then flowEnd .flowSequenceEnd
      else if c == '\x7d' then flowEnd .flowMappingEnd
      else if c == ',' then flowEntry
      else if c == '-' && s.blankzAt 1 then blockEntry
      else if c == '?' && (flow || s.blankzAt 1) then complexKey
      else if c == ':' && (flow || s.blankzAt 1) then valueIndicator
      else if c == '*' then anchorOrAlias false
      else if c == '&' then anchorOrAlias true
      else if c == '!' then tag
      else if c == '|' && !flow then blockScalar true
      else if c == '>' && !flow then blockScalar false
      else if c == '\'' then quotedScalar true
      else if c == '"' then quotedScalar false
      else if plainStarts s then plainScalar
      else
        fail "while scanning for the next token" s.mark "found character that cannot start any token"

/-- Whether the front token could still be made a key by a noted simple key. -/
def keyPending (s : Lexer) : Bool :=
  s.keys.any fun k => k.possible && k.tokenNumber == s.parsed

/-- Scans until a token is queued that no noted simple key can still change.  Every scan
but the stream's start and end moves past a character, which bounds the passes. -/
def fetchMore : LexM Unit := do
  let passes := (← get).rest.length + 3
  for _ in [0:passes] do
    if (← get).queue.isEmpty then fetchNext
    else
      staleKeys
      if keyPending (← get) then fetchNext else break

end Lexer

end PartCache.Yaml
