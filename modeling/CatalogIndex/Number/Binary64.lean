/-!
64-bit binary floating-point numbers as bit patterns. A finite number is `significand * 2 ^ scale`, and
`ofRatio` rounds a quotient to the nearest one, a tie going to the even significand.
-/
namespace CatalogIndex

structure Binary64 where
  bits : UInt64
deriving DecidableEq, Repr

namespace Binary64

/-- What the lowest bit of the exponent field counts among the bits: 52 fraction bits lie below it. -/
def exponentUnit : Nat := 1 <<< 52

def signUnit : Nat := 1 <<< 63

def exponentField (x : Binary64) : Nat := x.bits.toNat / exponentUnit % 2048

def fraction (x : Binary64) : Nat := x.bits.toNat % exponentUnit

def isNegative (x : Binary64) : Bool := signUnit ≤ x.bits.toNat

def isFinite (x : Binary64) : Bool := x.exponentField != 2047

def isNaN (x : Binary64) : Bool := x.exponentField == 2047 && x.fraction != 0

/-- The magnitude of a finite number, counted in units of `2 ^ scale`. -/
def significand (x : Binary64) : Nat :=
  if x.exponentField = 0 then x.fraction else exponentUnit + x.fraction

def scale (x : Binary64) : Int := (max x.exponentField 1 : Nat) - 1075

def numerator (x : Binary64) : Nat :=
  if 0 ≤ x.scale then x.significand <<< x.scale.toNat else x.significand

def denominator (x : Binary64) : Nat :=
  if 0 ≤ x.scale then 1 else 1 <<< (-x.scale).toNat

def isZero (x : Binary64) : Bool := x.exponentField == 0 && x.fraction == 0

/-- Numeric equality: a NaN equals nothing, and both zeros are equal. -/
def same (x y : Binary64) : Bool :=
  !x.isNaN && !y.isNaN && (x.bits == y.bits || (x.isZero && y.isZero))

/-- The quotient rounded to the nearest whole number, a tie going to the even one. -/
def roundedQuotient (num den : Nat) : Nat :=
  let floor := num / den
  let rest := num % den
  if 2 * rest < den then floor else if den < 2 * rest then floor + 1 else floor + floor % 2

def binaryExponent (num den : Nat) : Int :=
  let guess : Int := (num.log2 : Int) - den.log2
  let below := if 0 ≤ guess then num < den <<< guess.toNat else num <<< (-guess).toNat < den
  if below then guess - 1 else guess

/-- The exponent of the unit in the last place of the number nearest to a quotient. -/
def unitExponent (num den : Nat) : Int := max (binaryExponent num den - 52) (-1074)

def infinityBits : Nat := 2047 * exponentUnit

def magnitudeBits (num den : Nat) : Nat :=
  if num = 0 then 0
  else
    let unit := unitExponent num den
    let count :=
      if 0 ≤ unit then roundedQuotient num (den <<< unit.toNat)
      else roundedQuotient (num <<< (-unit).toNat) den
    min ((unit + 1074).toNat * exponentUnit + count) infinityBits

def ofMagnitude (negative : Bool) (magnitude : Nat) : Binary64 :=
  ⟨UInt64.ofNat (if negative then signUnit + magnitude else magnitude)⟩

/-- The number nearest to a quotient; what lies beyond the largest one becomes infinite. -/
def ofRatio (negative : Bool) (num den : Nat) : Binary64 :=
  ofMagnitude negative (magnitudeBits num den)

/-- The number nearest to `digits * 10 ^ exponent`. The two bounds keep hopelessly large and small exponents
from being multiplied out. -/
def ofScientific (negative : Bool) (digits : Nat) (exponent : Int) : Binary64 :=
  if digits = 0 then ofMagnitude negative 0
  else if 400 < exponent then ofMagnitude negative infinityBits
  else if 0 ≤ exponent then ofRatio negative (digits * Nat.pow 10 exponent.toNat) 1
  else if exponent + digits.log2 < -1200 then ofMagnitude negative 0
  else ofRatio negative digits (Nat.pow 10 (-exponent).toNat)

def ofInt (n : Int) : Binary64 := ofRatio (n < 0) n.natAbs 1

end Binary64
end CatalogIndex
