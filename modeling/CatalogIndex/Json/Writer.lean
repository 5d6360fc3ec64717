import CatalogIndex.Json.Tree
import CatalogIndex.Number.Layout
/-!
JSON texts: no blanks, members in the order of the tree, and only the escapes that JSON demands.
-/
namespace CatalogIndex.Json

/-- Decimals in JSON always show a point or an exponent; `d × 10 ^ e` is written without an exponent for `e`
from -5 to 15. -/
def decimalLayout : Layout := ⟨.even, fun lead => -5 ≤ lead && lead ≤ 15, true⟩

def hexDigit (n : Nat) : Char := if n < 10 then Char.ofNat (48 + n) else Char.ofNat (87 + n)

def escaped (c : Char) : List Char :=
  if c = '"' then ['\\', '"']
  else if c = '\\' then ['\\', '\\']
  else if c = '\x08' then ['\\', 'b']
  else if c = '\x0c' then ['\\', 'f']
  else if c = '\n' then ['\\', 'n']
  else if c = '\r' then ['\\', 'r']
  else if c = '\t' then ['\\', 't']
  else if c.toNat < 0x20 then
    ['\\', 'u', '0', '0', hexDigit (c.toNat / 16), hexDigit (c.toNat % 16)]
  else [c]

def quoted (chars : List Char) : List Char := '"' :: chars.flatMap escaped ++ ['"']

/-- A decimal; JSON has no text for the numbers that are not finite. -/
def writeDecimal (x : Binary64) : List Char :=
  if x.isFinite then decimalLayout.write x else ['n', 'u', 'l', 'l']

mutual

def write : Json → List Char
  | null => ['n', 'u', 'l', 'l']
  | bool true => ['t', 'r', 'u', 'e']
  | bool false => ['f', 'a', 'l', 's', 'e']
  | integer n => Numeral.signed n
  | decimal x => writeDecimal x
  | text value => quoted value.toList
  | array [] => ['[', ']']
  | array (item :: rest) => '[' :: write item ++ writeItems rest
  | object [] => ['\x7b', '\x7d']
  | object ((name, item) :: rest) => '\x7b' :: quoted name.toList ++ ':' :: write item ++ writeMembers rest

def writeItems : List Json → List Char
  | [] => [']']
  | item :: rest => ',' :: write item ++ writeItems rest

def writeMembers : List (String × Json) → List Char
  | [] => ['\x7d']
  | (name, item) :: rest => ',' :: quoted name.toList ++ ':' :: write item ++ writeMembers rest

end

def render (tree : Json) : String := String.ofList tree.write

end CatalogIndex.Json
