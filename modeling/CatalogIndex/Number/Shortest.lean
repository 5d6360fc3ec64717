import CatalogIndex.Number.Binary64
import CatalogIndex.Text.Numeral
/-!
The shortest decimal that reads back as a given binary number. Grids of 1, 2, … 17 digits are tried in turn;
on each the two neighbours of the number are offered, the nearer one first, and the first that reads back is
taken. The exact expansion stands behind the search, so what is returned reads back in every case.
-/
namespace CatalogIndex

structure Decimal where
  digits : Nat
  exponent : Int
deriving DecidableEq, Repr

/-- Which neighbour is offered first when both are equally near. -/
inductive Tie where
  | even
  | up
deriving DecidableEq, Repr

namespace Decimal

def toBinary (negative : Bool) (decimal : Decimal) : Binary64 :=
  Binary64.ofScientific negative decimal.digits decimal.exponent

def leadingExponent (num den : Nat) : Int :=
  if den ≤ num then ((Numeral.digits (num / den)).length : Int) - 1
  else
    let length := (Numeral.digits (den / num)).length
    if num * Nat.pow 10 (length - 1) = den then 1 - (length : Int) else -(length : Int)

/-- The whole parts and the position between them of a quotient on the grid of multiples of `10 ^ exponent`. -/
def onGrid (num den : Nat) (exponent : Int) : Nat × Nat × Nat :=
  let num := if 0 ≤ exponent then num else num * Nat.pow 10 (-exponent).toNat
  let den := if 0 ≤ exponent then den * Nat.pow 10 exponent.toNat else den
  (num / den, num % den, den)

def neighbours (tie : Tie) (num den : Nat) (exponent : Int) : List Decimal :=
  let (floor, rest, unit) := onGrid num den exponent
  let below : Decimal := ⟨floor, exponent⟩
  let above : Decimal := ⟨floor + 1, exponent⟩
  if 2 * rest < unit then [below, above]
  else if unit < 2 * rest then [above, below]
  else match tie with
    | .up => [above, below]
    | .even => if floor % 2 = 0 then [below, above] else [above, below]

def exact (x : Binary64) : Decimal :=
  if 0 ≤ x.scale then ⟨x.significand <<< x.scale.toNat, 0⟩
  else ⟨x.significand * Nat.pow 5 (-x.scale).toNat, x.scale⟩

def dropZeros (fuel : Nat) (decimal : Decimal) : Decimal :=
  match fuel with
  | 0 => decimal
  | fuel + 1 =>
    if decimal.digits ≠ 0 ∧ decimal.digits % 10 = 0 then
      dropZeros fuel ⟨decimal.digits / 10, decimal.exponent + 1⟩
    else decimal

def candidates (tie : Tie) (x : Binary64) : List Decimal :=
  let lead := leadingExponent x.numerator x.denominator
  (List.range 17).flatMap fun (places : Nat) => neighbours tie x.numerator x.denominator (lead - places)

/-- The shortest decimal, and of those the nearest, that reads back as a finite number. -/
def shortest (tie : Tie) (x : Binary64) : Decimal :=
  match (candidates tie x).find? (fun decimal => decimal.toBinary x.isNegative == x) with
  | some decimal => dropZeros 17 decimal
  | none => exact x

end Decimal
end CatalogIndex
