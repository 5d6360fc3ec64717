import CatalogIndex.Number.Reading
import CatalogIndex.Time.Civil
import CatalogIndex.Toml.Basic
import CatalogIndex.Value
/-!
The TOML values that are written without quotes or brackets: truth values, whole numbers, numbers, dates and
times. Dates and times become their texts in one form: `T` between date and time, no zeros at the end of a
fraction, `Z` or a signed offset.
-/
namespace CatalogIndex.Toml

/-- A run of digits in groups with single underscores between them, the underscores taken out. -/
def grouped? (isDigit : Char → Bool) : List Char → Option (List Char)
  | [] => none
  | [c] => if isDigit c then some [c] else none
  | c :: '_' :: rest => if isDigit c then (grouped? isDigit rest).map (c :: ·) else none
  | c :: rest => if isDigit c then (grouped? isDigit rest).map (c :: ·) else none

/-- A run of decimal digits that starts with no zero, unless it is a single one. -/
def plainDigits? (chars : List Char) : Option (List Char) := do
  let digits ← grouped? Numeral.isDigit chars
  match digits with
  | '0' :: _ :: _ => none
  | digits => some digits

def based? (base : Nat) (chars : List Char) : Option Int := do
  let isDigit (c : Char) : Bool := (Json.hexValue c).any (· < base)
  let digits ← grouped? isDigit chars
  some (digits.foldl (fun total c => total * base + (Json.hexValue c).getD 0) (0 : Nat))

def integer? (chars : List Char) : Option Json := do
  let n ← match chars with
    | '0' :: 'x' :: rest => based? 16 rest
    | '0' :: 'o' :: rest => based? 8 rest
    | '0' :: 'b' :: rest => based? 2 rest
    | '-' :: rest => (plainDigits? rest).map fun digits => -(Numeral.value digits : Int)
    | '+' :: rest => (plainDigits? rest).map fun digits => (Numeral.value digits : Int)
    | chars => (plainDigits? chars).map fun digits => (Numeral.value digits : Int)
  if Value.fitsInteger n then some (.integer n) else none

def exponent? (chars : List Char) : Option Int :=
  match chars with
  | '-' :: rest => (grouped? Numeral.isDigit rest).map fun digits => -(Numeral.value digits : Int)
  | '+' :: rest => (grouped? Numeral.isDigit rest).map fun digits => (Numeral.value digits : Int)
  | chars => (grouped? Numeral.isDigit chars).map fun digits => (Numeral.value digits : Int)

def isExponentMark (c : Char) : Bool := c == 'e' || c == 'E'

/-- A number with a fraction or an exponent. One that is too large is refused, but not its negative. -/
def fractional? (negative : Bool) (chars : List Char) : Option Json := do
  let mantissa := chars.takeWhile (!isExponentMark ·)
  let exponent ← match chars.dropWhile (!isExponentMark ·) with
    | [] => some 0
    | _ :: rest => exponent? rest
  let whole ← plainDigits? (mantissa.takeWhile (· != '.'))
  let fraction ← match mantissa.dropWhile (· != '.') with
    | [] => some []
    | _ :: rest => grouped? Numeral.isDigit rest
  if chars.all fun c => !(isExponentMark c || c == '.') then none
  let x := Binary64.ofScientific negative (Numeral.value (whole ++ fraction)) (exponent - fraction.length)
  if !x.isFinite && !negative then none else some (.decimal x)

def number? (negative : Bool) (chars : List Char) : Option Json :=
  if chars = ['i', 'n', 'f'] then some (.decimal (.ofMagnitude negative Binary64.infinityBits))
  else if chars = ['n', 'a', 'n'] then some (.decimal (.ofMagnitude negative Binary64.nanBits))
  else fractional? negative chars

/-! ### Dates and times -/

structure MomentBounds where
  hour : Nat
  offsetHour : Nat
  offsetMinute : Nat

namespace MomentBounds

/-- The bounds of what is written without quotes. -/
def plain : MomentBounds := ⟨23, 23, 59⟩

/-- The bounds of a quoted text that stands for a date or a time. -/
def inText : MomentBounds := ⟨24, 99, 99⟩

end MomentBounds

def two? (least most : Nat) : Reader Nat
  | a :: b :: rest =>
    let n := Numeral.value [a, b]
    if Numeral.isDigit a ∧ Numeral.isDigit b ∧ least ≤ n ∧ n ≤ most then some (n, rest) else none
  | _ => none

def mark? (c : Char) : Reader Unit
  | first :: rest => if first = c then some ((), rest) else none
  | [] => none

def date? : Reader (List Char) := fun chars => do
  let digits := chars.take 4
  if digits.length < 4 ∨ !digits.all Numeral.isDigit then none
  let ((), rest) ← mark? '-' (chars.drop 4)
  let (month, rest) ← two? 1 12 rest
  let ((), rest) ← mark? '-' rest
  let (day, rest) ← two? 1 31 rest
  let date : Civil := ⟨Numeral.value digits, month, day⟩
  if date.exists? then some (chars.take 10, rest) else none

/-- The fraction of a second to nine digits, without zeros at its end. -/
def secondFraction? : Reader (List Char)
  | '.' :: rest =>
    let digits := rest.takeWhile Numeral.isDigit
    let shown := ((digits.take 9).reverse.dropWhile (· == '0')).reverse
    if digits = [] then none
    else some (if shown = [] then [] else '.' :: shown, rest.dropWhile Numeral.isDigit)
  | chars => some ([], chars)

def time? (bounds : MomentBounds) : Reader (List Char) := fun chars => do
  let (_, rest) ← two? 0 bounds.hour chars
  let ((), rest) ← mark? ':' rest
  let (_, rest) ← two? 0 59 rest
  let ((), rest) ← mark? ':' rest
  let (_, rest) ← two? 0 60 rest
  let (fraction, rest) ← secondFraction? rest
  some (chars.take 8 ++ fraction, rest)

/-- The text of an offset by a number of minutes; that by none is shown as a positive one. -/
def offsetText (sign : Char) (minutes : Nat) : List Char :=
  (if minutes = 0 then '+' else sign) :: Numeral.padded 2 (minutes / 60) ++ ':' :: Numeral.padded 2 (minutes % 60)

/-- The offset at the end of a time, of at most one day. -/
def offset? (bounds : MomentBounds) : List Char → Option (List Char)
  | [] => some []
  | ['Z'] => some ['Z']
  | ['z'] => some ['Z']
  | sign :: rest => do
    if sign ≠ '+' ∧ sign ≠ '-' then none
    let (hours, after) ← two? 0 bounds.offsetHour rest
    let ((), after) ← mark? ':' after
    let (minutes, after) ← two? 0 bounds.offsetMinute after
    let total := hours * 60 + minutes
    if after ≠ [] ∨ 24 * 60 < total then none
    some (offsetText sign total)

def moment? (bounds : MomentBounds) (chars : List Char) : Option (List Char) :=
  match date? chars with
  | some (date, []) => some date
  | some (date, divider :: rest) => do
    if divider ≠ 'T' ∧ divider ≠ 't' ∧ divider ≠ ' ' then none
    let (time, rest) ← time? bounds rest
    let offset ← offset? bounds rest
    some (date ++ 'T' :: time ++ offset)
  | none =>
    match time? bounds chars with
    | some (time, []) => some time
    | _ => none

/-! ### Words -/

inductive Scalar where
  | plain (value : Json)
  | moment (text : String)

def endsValue (c : Char) : Bool :=
  c == ' ' || c == '\t' || c == '\n' || c == '\r' || c == ',' || c == ']' || c == '\x7d' || c == '#'

/-- The word at the front of a text; a date takes a time after a space along. -/
def valueWord (chars : List Char) : List Char :=
  let word := chars.takeWhile (!endsValue ·)
  match date? word, chars.drop word.length with
  | some (_, []), ' ' :: c :: rest =>
    if Numeral.isDigit c then word ++ ' ' :: (c :: rest).takeWhile (!endsValue ·) else word
  | _, _ => word

def ofWord? (word : List Char) : Option Scalar :=
  if word = "true".toList then some (.plain (.bool true))
  else if word = "false".toList then some (.plain (.bool false))
  else
    let numeric := (integer? word).or (match word with
      | '-' :: rest => number? true rest
      | '+' :: rest => number? false rest
      | word => number? false word)
    (numeric.map .plain).or ((moment? .plain word).map fun text => .moment (String.ofList text))

def scalar : Reader Scalar := fun chars =>
  let word := valueWord chars
  (ofWord? word).map fun value => (value, chars.drop word.length)

end CatalogIndex.Toml
