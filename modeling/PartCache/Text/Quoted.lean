import PartCache.Text.Unprintable

/-!
# Quoted text in messages

Error messages quote the text they refused between double quotes.  Inside the
quotes a double quote and a backslash are preceded by a backslash, NUL, tab,
carriage return and line feed are written `\0`, `\t`, `\r`, `\n`, and every other
character that does not print on its own (`Text.isUnprintable`) is written `\u{…}`
with its code point in lowercase hexadecimal without leading zeros.  All other
characters stand as themselves.
-/

namespace PartCache.Text

set_option autoImplicit false

/-- The lowercase hexadecimal digits of a number, without leading zeros. -/
def hexDigits (n : Nat) : List Char :=
  (Nat.toDigits 16 n)

/-- How one character is written inside a quotation. -/
def quoteChar (c : Char) : List Char :=
  if c = '"' then ['\\', '"']
  else if c = '\\' then ['\\', '\\']
  else if c = '\n' then ['\\', 'n']
  else if c = '\r' then ['\\', 'r']
  else if c = '\t' then ['\\', 't']
  else if c.toNat = 0 then ['\\', '0']
  else if isUnprintable c then ['\\', 'u', '\x7b'] ++ hexDigits c.toNat ++ ['\x7d']
  else [c]

/-- The characters of a text between double quotes, escaped. -/
def quoteChars (cs : List Char) : List Char :=
  '"' :: cs.flatMap quoteChar ++ ['"']

/-- A text between double quotes, escaped. -/
def quote (s : String) : String := String.ofList (quoteChars s.toList)

end PartCache.Text
