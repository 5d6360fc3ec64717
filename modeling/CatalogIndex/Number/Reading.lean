import CatalogIndex.Number.Binary64
import CatalogIndex.Text.Numeral
/-!
Texts as binary numbers, and binary numbers as whole ones.
-/
namespace CatalogIndex.Binary64

def digitRun (chars : List Char) : List Char × List Char :=
  (chars.takeWhile Numeral.isDigit, chars.dropWhile Numeral.isDigit)

def sign : List Char → Bool × List Char
  | '-' :: rest => (true, rest)
  | '+' :: rest => (false, rest)
  | chars => (false, chars)

def exponentOf? : List Char → Option Int
  | [] => some 0
  | mark :: rest =>
    if mark = 'e' ∨ mark = 'E' then
      let (negative, rest) := sign rest
      (Numeral.toNat? rest).map fun n => if negative then -(n : Int) else n
    else none

/-- The number that a text without a sign stands for: digits with a point among them or beside them, and an
exponent. -/
def magnitude? (negative : Bool) (chars : List Char) : Option Binary64 :=
  let (whole, rest) := digitRun chars
  let (fraction, rest) := match rest with
    | '.' :: rest => digitRun rest
    | rest => ([], rest)
  if whole = [] ∧ fraction = [] then none
  else (exponentOf? rest).map fun exponent =>
    ofScientific negative (Numeral.value (whole ++ fraction)) (exponent - fraction.length)

def nanBits : Nat := infinityBits + exponentUnit / 2

/-- The number that a text stands for, the three special ones included, in any case. -/
def ofText? (text : String) : Option Binary64 :=
  let (negative, chars) := sign text.toList
  let word := String.ofList (chars.map Char.toLower)
  if word = "inf" ∨ word = "infinity" then some (ofMagnitude negative infinityBits)
  else if word = "nan" then some (ofMagnitude negative nanBits)
  else magnitude? negative chars

/-- The nearest whole number in a range of words, a tie going away from zero; what is no number reads as
zero. -/
def toWord (x : Binary64) : UInt64 :=
  if x.isNaN || x.isNegative then 0
  else if !x.isFinite then UInt64.ofNat (UInt64.size - 1)
  else UInt64.ofNat (min ((2 * x.numerator + x.denominator) / (2 * x.denominator)) (UInt64.size - 1))

end CatalogIndex.Binary64
