import PartCache.Number.Decimal

/-!
# YAML tokens, positions and syntax errors

A YAML document is read in three stages: characters become tokens, tokens become
events, and events become a value.  This module holds what the first two stages
share: positions in the input, the tokens, the character classes the scanner
decides on, and the syntax error both stages raise.

A position counts characters, lines and columns from zero.  A syntax error names
the problem and where it was met, and, for most errors, the construct being read
and where that began.  Its text gives a position as `line L column C`, counting
from one, except that the very start of the input is not named at all; a fault in
the characters themselves is placed by its byte offset instead.
-/

namespace PartCache.Yaml

set_option autoImplicit false

/-- A position in the input: the bytes before it, and its line and column from zero. -/
structure Mark where
  index : Nat
  line : Nat
  column : Nat
  deriving Inhabited, DecidableEq, Repr

namespace Mark

/-- The start of the input. -/
def origin : Mark := ⟨0, 0, 0⟩

/-- Whether the mark is on the first column of the first line. -/
def atStart (m : Mark) : Bool := m.line == 0 && m.column == 0

/-- A mark as messages name it: `line L column C` from one, or the byte count at the start. -/
def text (m : Mark) : String :=
  if m.atStart then "position " ++ Decimal.text m.index
  else "line " ++ Decimal.text (m.line + 1) ++ " column " ++ Decimal.text (m.column + 1)

end Mark

/-- A syntax error: the problem and where it was met, and what was being read and from where. -/
structure SyntaxError where
  problem : String
  problemMark : Mark
  /-- The byte offset of a character the input may not hold, or zero. -/
  offset : Nat := 0
  context : Option String := none
  contextMark : Mark := Mark.origin
  deriving Inhabited

namespace SyntaxError

/-- The text of a syntax error. -/
def text (e : SyntaxError) : String :=
  let at1 :=
    if !e.problemMark.atStart then " at " ++ e.problemMark.text
    else if e.offset != 0 then " at position " ++ Decimal.text e.offset
    else ""
  let ctx := match e.context with
    | none => ""
    | some c =>
      ", " ++ c ++
        (if !e.contextMark.atStart &&
            (e.contextMark.line != e.problemMark.line ||
              e.contextMark.column != e.problemMark.column)
          then " at " ++ e.contextMark.text else "")
  e.problem ++ at1 ++ ctx

end SyntaxError

/-- How a scalar was written. -/
inductive ScalarStyle where
  | plain
  | singleQuoted
  | doubleQuoted
  | literal
  | folded
  deriving Inhabited, DecidableEq, Repr

/-- A tag as bytes: the `%` escapes of a tag may spell bytes that are not UTF-8. -/
structure Tag where
  bytes : List UInt8
  deriving Inhabited, DecidableEq, Repr

namespace Tag

/-- The tag spelled by a text. -/
def ofString (s : String) : Tag := ⟨s.toUTF8.toList⟩

instance : Append Tag := ⟨fun a b => ⟨a.bytes ++ b.bytes⟩⟩

/-- Whether the tag has no bytes. -/
def isEmpty (t : Tag) : Bool := t.bytes.isEmpty

/-- The tag as a zero-terminated string keeps it: the bytes before its first zero byte,
which a `%00` escape spells. -/
def terminated (t : Tag) : Tag := ⟨t.bytes.takeWhile (· != 0)⟩

/-- Whether the tag is the one a text spells. -/
def is (t : Tag) (s : String) : Bool := t.bytes == s.toUTF8.toList

/-- Whether the tag is a local one, starting with `!`. -/
def isLocal (t : Tag) : Bool := t.bytes.head? == some 33

/-- The tag as text, when its bytes are UTF-8. -/
def text? (t : Tag) : Option String := String.fromUTF8? ⟨t.bytes.toArray⟩

end Tag

/-- The kinds of token. -/
inductive TokenKind where
  | streamStart
  | streamEnd
  | versionDirective (major minor : Nat)
  | tagDirective (handle : String) (pfx : Tag)
  | documentStart
  | documentEnd
  | blockSequenceStart
  | blockMappingStart
  | blockEnd
  | flowSequenceStart
  | flowSequenceEnd
  | flowMappingStart
  | flowMappingEnd
  | blockEntry
  | flowEntry
  | key
  | value
  | alias (name : String)
  | anchor (name : String)
  | tag (handle : String) (suffix : Tag)
  | scalar (text : String) (style : ScalarStyle)
  deriving Inhabited, Repr

/-- A token with where it starts and ends. -/
structure Token where
  kind : TokenKind
  start : Mark
  stop : Mark
  deriving Inhabited, Repr

/-! ## Character classes -/

/-- Line breaks: CR, LF, NEL, and the line and paragraph separators. -/
def isBreak (c : Char) : Bool :=
  c == '\r' || c == '\n' || c == '\u0085' || c == '\u2028' || c == '\u2029'

/-- Blanks: space and tab. -/
def isBlank (c : Char) : Bool := c == ' ' || c == '\t'

/-- Characters of anchors, directive names and tag handles: ASCII letters, digits, `_`, `-`. -/
def isWordChar (c : Char) : Bool :=
  ('0' ≤ c && c ≤ '9') || ('a' ≤ c && c ≤ 'z') || ('A' ≤ c && c ≤ 'Z') || c == '_' || c == '-'

/-- The value of a hexadecimal digit. -/
def hexValue (c : Char) : Option Nat :=
  if '0' ≤ c && c ≤ '9' then some (c.toNat - '0'.toNat)
  else if 'a' ≤ c && c ≤ 'f' then some (c.toNat - 'a'.toNat + 10)
  else if 'A' ≤ c && c ≤ 'F' then some (c.toNat - 'A'.toNat + 10)
  else none

/-- Whether a code point may appear in a YAML stream. -/
def isAllowed (c : Char) : Bool :=
  let n := c.toNat
  n == 0x9 || n == 0xA || n == 0xD || (0x20 ≤ n && n ≤ 0x7E) || n == 0x85 ||
    (0xA0 ≤ n && n ≤ 0xD7FF) || (0xE000 ≤ n && n ≤ 0xFFFD) || 0x10000 ≤ n

/-- The byte offset of the first character the stream may not hold, if any. -/
def firstDisallowed (cs : List Char) : Option Nat :=
  go cs 0
where
  go : List Char → Nat → Option Nat
    | [], _ => none
    | c :: rest, offset => if isAllowed c then go rest (offset + c.utf8Size) else some offset

end PartCache.Yaml
