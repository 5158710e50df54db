/-!
# Blank characters

Header values are read after their surrounding blanks are cut.  A blank is a
character with the Unicode `White_Space` property: the ASCII tab, line feed,
vertical tab, form feed, carriage return and space, the next line control, the
no-break spaces, and the spaces and separators of the general punctuation block.
-/

namespace PartCache.Text

set_option autoImplicit false

/-- Whether a character has the Unicode `White_Space` property. -/
def isBlank (c : Char) : Bool :=
  let n := c.toNat
  (0x09 ≤ n && n ≤ 0x0D) || n == 0x20 || n == 0x85 || n == 0xA0 || n == 0x1680 ||
  (0x2000 ≤ n && n ≤ 0x200A) || n == 0x2028 || n == 0x2029 || n == 0x202F ||
  n == 0x205F || n == 0x3000

/-- The characters without their leading blanks. -/
def dropBlanks (cs : List Char) : List Char := cs.dropWhile isBlank

/-- The characters without leading and trailing blanks. -/
def trimChars (cs : List Char) : List Char :=
  (dropBlanks (dropBlanks cs).reverse).reverse

/-- A text without leading and trailing blanks. -/
def trim (s : String) : String := String.ofList (trimChars s.toList)

end PartCache.Text
