import CatalogIndex.Number.Shortest
/-!
Texts of binary numbers: the shortest digits, laid out with or without an exponent.
-/
namespace CatalogIndex

structure Layout where
  tie : Tie
  /-- Whether a number whose leading digit has this exponent is written without an exponent. -/
  positional : Int → Bool
  /-- Whether a whole number written without an exponent still shows one decimal place. -/
  showsPoint : Bool

namespace Layout

def zeros (count : Nat) : List Char := List.replicate count '0'

def plain (layout : Layout) (digits : List Char) (exponent : Int) : List Char :=
  let lead := exponent + digits.length - 1
  if 0 ≤ exponent then
    digits ++ zeros exponent.toNat ++ (if layout.showsPoint then ['.', '0'] else [])
  else if 0 ≤ lead then
    digits.take (lead + 1).toNat ++ '.' :: digits.drop (lead + 1).toNat
  else
    '0' :: '.' :: zeros (-lead - 1).toNat ++ digits

def scientific (digits : List Char) (exponent : Int) : List Char :=
  let lead := exponent + digits.length - 1
  let mantissa := match digits with
    | [] => []
    | [single] => [single]
    | first :: rest => first :: '.' :: rest
  mantissa ++ 'e' :: (if lead < 0 then '-' else '+') :: Numeral.digits lead.natAbs

def write (layout : Layout) (x : Binary64) : List Char :=
  let decimal := if x.isZero then ⟨0, 0⟩ else Decimal.shortest layout.tie x
  let digits := Numeral.digits decimal.digits
  let lead := decimal.exponent + digits.length - 1
  let body := if layout.positional lead then layout.plain digits decimal.exponent
    else scientific digits decimal.exponent
  if x.isNegative then '-' :: body else body

end Layout

namespace Binary64

/-- Numbers in messages and keys: never an exponent, and whole numbers without a point. -/
def displayLayout : Layout := ⟨.up, fun _ => true, false⟩

def display (x : Binary64) : String :=
  if x.isNaN then "NaN"
  else if !x.isFinite then (if x.isNegative then "-inf" else "inf")
  else String.ofList (displayLayout.write x)

end Binary64
end CatalogIndex
