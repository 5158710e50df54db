import PartCache.Bytes
import PartCache.Number.Shortest

/-!
# JSON documents

Stored metadata, the zone settings file and every answer of this library are JSON
documents.  A document is a tree of values whose objects keep their members in
the order they were built, and it is written compactly: no blank between tokens,
members in order, strings quoted with the short escapes for the usual control
characters and `\u00XX` for the others, every other character as itself.
-/

namespace PartCache

set_option autoImplicit false

/-- A JSON value; objects keep the order of their members. -/
inductive Json where
  | null
  | bool (b : Bool)
  | int (n : Int)
  | double (x : Binary64)
  | str (s : String)
  | arr (items : List Json)
  | obj (members : List (String × Json))
  deriving Inhabited

namespace Json

/-- The written form of one character inside a quoted string. -/
def escapeChar (c : Char) : List Char :=
  if c = '"' then ['\\', '"']
  else if c = '\\' then ['\\', '\\']
  else if c = '\n' then ['\\', 'n']
  else if c = '\r' then ['\\', 'r']
  else if c = '\t' then ['\\', 't']
  else if c.toNat = 8 then ['\\', 'b']
  else if c.toNat = 12 then ['\\', 'f']
  else if c.toNat < 0x20 then
    ['\\', 'u', '0', '0', Bytes.hexDigit (c.toNat / 16), Bytes.hexDigit (c.toNat % 16)]
  else [c]

/-- A string between double quotes, escaped. -/
def quote (s : String) : String :=
  String.ofList ('"' :: s.toList.flatMap escapeChar ++ ['"'])

mutual
/-- The compact text of a value. -/
def render : Json → String
  | null => "null"
  | bool true => "true"
  | bool false => "false"
  | int n => if n < 0 then "-" ++ Decimal.text n.natAbs else Decimal.text n.toNat
  | double x => x.jsonText
  | str s => quote s
  | arr items => "[" ++ renderItems items ++ "]"
  | obj members => "\x7b" ++ renderMembers members ++ "\x7d"

/-- The compact text of array items, comma separated. -/
def renderItems : List Json → String
  | [] => ""
  | [v] => render v
  | v :: rest => render v ++ "," ++ renderItems rest

/-- The compact text of object members, comma separated. -/
def renderMembers : List (String × Json) → String
  | [] => ""
  | [(k, v)] => quote k ++ ":" ++ render v
  | (k, v) :: rest => quote k ++ ":" ++ render v ++ "," ++ renderMembers rest
end

/-- A natural number as a JSON value. -/
def nat (n : Nat) : Json := int n

/-- A byte string as its lowercase hexadecimal text. -/
def hexOf (bs : Bytes) : Json := str (Bytes.hex bs)

/-- An optional value, absent as `null`. -/
def opt {α : Type} (f : α → Json) : Option α → Json
  | some a => f a
  | none => null

/-- The member of an object under a key, if any. -/
def field? (v : Json) (key : String) : Option Json :=
  match v with
  | obj members => members.lookup key
  | _ => none

end Json

end PartCache
