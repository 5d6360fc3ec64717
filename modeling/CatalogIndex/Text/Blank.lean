/-!
White space in texts: the characters with the Unicode property, and cutting them off both ends.
-/
namespace CatalogIndex.Blank

/-- The characters with the Unicode property White_Space. -/
def isBlank (c : Char) : Bool :=
  let code := c.toNat
  (9 ≤ code && code ≤ 13) || code == 0x20 || code == 0x85 || code == 0xA0 || code == 0x1680 ||
    (0x2000 ≤ code && code ≤ 0x200A) || code == 0x2028 || code == 0x2029 || code == 0x202F ||
    code == 0x205F || code == 0x3000

def skip (chars : List Char) : List Char := chars.dropWhile isBlank

def trim (chars : List Char) : List Char := (skip (skip chars).reverse).reverse

def trimText (text : String) : String := String.ofList (trim text.toList)

end CatalogIndex.Blank
