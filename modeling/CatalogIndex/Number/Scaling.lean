import CatalogIndex.Number.Binary64
import CatalogIndex.Text.Numeral
/-!
Decimals read by scaling. The leading digits that fit a 64-bit word are rounded to a binary number, and that is
multiplied or divided by the number nearest to a power of ten. Digits below `2 ^ 53` and powers up to `10 ^ 22`
are held without loss, so in that range only one step rounds; beyond it the last bits may differ from those of
the nearest number.
-/
namespace CatalogIndex.Binary64

def product (x y : Binary64) : Binary64 :=
  ofRatio (x.isNegative != y.isNegative) (x.numerator * y.numerator) (x.denominator * y.denominator)

def quotient (x y : Binary64) : Binary64 :=
  ofRatio (x.isNegative != y.isNegative) (x.numerator * y.denominator) (x.denominator * y.numerator)

def largestPower : Nat := 308

def powerOfTen (exponent : Nat) : Binary64 := ofScientific false 1 exponent

/-- A finite number times `10 ^ exponent`, or nothing if that is too large. It is divided by `10 ^ 308` until
what is left of the exponent is smaller; a number below `10 ^ 20` becomes zero in two rounds of that. -/
def scaled? (rounds : Nat) (x : Binary64) (exponent : Int) : Option Binary64 :=
  if exponent.natAbs ≤ largestPower then
    let power := powerOfTen exponent.natAbs
    if 0 ≤ exponent then
      let product := x.product power
      if product.isFinite then some product else none
    else some (x.quotient power)
  else if x.isZero then some x
  else if 0 ≤ exponent then none
  else match rounds with
    | 0 => some x
    | rounds + 1 => scaled? rounds (x.quotient (powerOfTen largestPower)) (exponent + largestPower)

/-- Appends digits to a number while it fits a 64-bit word; the digits from the first that does not fit are left
over. -/
def fill (start : Nat) : List Char → Nat × List Char
  | [] => (start, [])
  | c :: rest =>
    let next := start * 10 + Numeral.digitValue c
    if next < UInt64.size then fill next rest else (start, c :: rest)

/-- The number that digits before and after a point are read as, times a power of ten. Digits that do not fit
count as places before the point and for nothing after it. -/
def ofDigits? (negative : Bool) (whole fraction : List Char) (exponent : Int) : Option Binary64 :=
  let (digits, beyond) := fill 0 whole
  let (digits, dropped) := fill digits fraction
  let places : Int := fraction.length - dropped.length
  (scaled? 2 (ofInt digits) (exponent + beyond.length - places)).map fun x =>
    ofMagnitude negative x.bits.toNat

end CatalogIndex.Binary64
