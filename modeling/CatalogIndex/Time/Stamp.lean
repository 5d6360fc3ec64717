import CatalogIndex.Time.Instant
import CatalogIndex.Text.Blank
import CatalogIndex.Text.Numeral
/-!
Instants as texts. The written form is `YYYY-MM-DDTHH:MM:SS`, a fraction of 0, 3, 6 or 9 digits and a zone
mark; the read forms also allow blanks between the parts, short numbers, a space for the `T` and a zone offset.
-/
namespace CatalogIndex.Stamp

/-! ### Writing -/

/-- Years outside 0 to 9999 are signed. -/
def year (number : Int) : List Char :=
  let numeral := Numeral.padded 4 number.natAbs
  if number < 0 then '-' :: numeral else if 9999 < number then '+' :: numeral else numeral

/-- The fraction of a second in the fewest groups of three digits. -/
def fraction (nanos : Nat) : List Char :=
  if nanos = 0 then []
  else if nanos % 1000000 = 0 then '.' :: Numeral.padded 3 (nanos / 1000000)
  else if nanos % 1000 = 0 then '.' :: Numeral.padded 6 (nanos / 1000)
  else '.' :: Numeral.padded 9 nanos

def clock (second nanos : Nat) : List Char :=
  let leap := nanos / 1000000000
  Numeral.padded 2 (second / 3600) ++ ':' :: Numeral.padded 2 (second / 60 % 60) ++
    ':' :: Numeral.padded 2 (second % 60 + leap) ++ fraction (nanos % 1000000000)

def write (zone : List Char) (instant : Instant) : List Char :=
  let date := Civil.ofDays (instant.seconds / 86400)
  year date.year ++ '-' :: Numeral.padded 2 date.month ++ '-' :: Numeral.padded 2 date.day ++
    'T' :: clock (instant.seconds % 86400).toNat instant.nanos ++ zone

/-- The form that documents and settings hold. -/
def encode (instant : Instant) : String := String.ofList (write ['Z'] instant)

/-- The form that delete queries compare with. -/
def display (instant : Instant) : String :=
  String.ofList (write ['+', '0', '0', ':', '0', '0'] instant)

/-! ### Reading -/

abbrev Reader (α : Type) := List Char → Option (α × List Char)

def number (limit : Nat) : Reader Nat := fun chars =>
  let run := (chars.take limit).takeWhile Numeral.isDigit
  if run = [] then none else some (Numeral.value run, chars.drop run.length)

def field (limit : Nat) : Reader Nat := fun chars => number limit (Blank.skip chars)

def mark (c : Char) : Reader Unit := fun chars =>
  match Blank.skip chars with
  | first :: rest => if first = c then some ((), rest) else none
  | [] => none

/-- A year has at most four digits unless it is signed. -/
def yearField : Reader Int := fun chars =>
  match Blank.skip chars with
  | '-' :: rest => (number rest.length rest).map fun (n, rest) => (-(n : Int), rest)
  | '+' :: rest => (number rest.length rest).map fun (n, rest) => ((n : Int), rest)
  | chars => (number 4 chars).map fun (n, rest) => ((n : Int), rest)

def dateField : Reader Civil := fun chars => do
  let (year, chars) ← yearField chars
  let ((), chars) ← mark '-' chars
  let (month, chars) ← field 2 chars
  let ((), chars) ← mark '-' chars
  let (day, chars) ← field 2 chars
  return (⟨year, month, day⟩, chars)

def divider : Reader Unit
  | 'T' :: rest => some ((), rest)
  | 't' :: rest => some ((), rest)
  | ' ' :: rest => some ((), rest)
  | _ => none

/-- The nanoseconds in a fraction; digits beyond the ninth are dropped. -/
def nanosField : Reader Nat
  | '.' :: rest =>
    let run := rest.takeWhile Numeral.isDigit
    if run = [] then none
    else some (Numeral.value ((run ++ List.replicate 9 '0').take 9), rest.drop run.length)
  | chars => some (0, chars)

/-- Hours, minutes and seconds of a day, and nanoseconds; second 60 is a leap second. -/
def clockField : Reader (Nat × Nat) := fun chars => do
  let (hour, chars) ← field 2 chars
  let ((), chars) ← mark ':' chars
  let (minute, chars) ← field 2 chars
  let ((), chars) ← mark ':' chars
  let (second, chars) ← field 2 chars
  let (nanos, chars) ← nanosField chars
  if hour < 24 ∧ minute < 60 ∧ second ≤ 60 then
    if second = 60 then return ((hour * 3600 + minute * 60 + 59, nanos + 1000000000), chars)
    else return ((hour * 3600 + minute * 60 + second, nanos), chars)
  else none

def twoDigits : Reader Nat
  | a :: b :: rest => if Numeral.isDigit a && Numeral.isDigit b then some (Numeral.value [a, b], rest) else none
  | _ => none

/-- The seconds by which an offset after its sign runs ahead of universal time. -/
def offset (sign : Int) : Reader Int := fun chars => do
  let (hours, chars) ← twoDigits chars
  let (minutes, chars) ← twoDigits (chars.dropWhile fun c => c == ':' || Blank.isBlank c)
  if minutes < 60 ∧ hours < 24 then return (sign * (hours * 3600 + minutes * 60 : Nat), chars) else none

def zoneField : Reader Int := fun chars =>
  match Blank.skip chars with
  | '+' :: rest => offset 1 rest
  | '-' :: rest => offset (-1) rest
  | '\u2212' :: rest => offset (-1) rest
  | 'Z' :: rest => some (0, rest)
  | 'z' :: rest => some (0, rest)
  | a :: b :: c :: rest =>
    if a.toUpper = 'U' ∧ b.toUpper = 'T' ∧ c.toUpper = 'C' then some (0, rest) else none
  | _ => none

def yearInRange (year : Int) : Bool := -262143 ≤ year && year ≤ 262142

def decode? (chars : List Char) : Option Instant := do
  let (date, chars) ← dateField chars
  let ((), chars) ← divider chars
  let ((second, nanos), chars) ← clockField chars
  let (ahead, chars) ← zoneField chars
  if Blank.skip chars = [] ∧ date.exists? ∧ yearInRange date.year then
    Instant.ofParts? (date.toDays * 86400 + second - ahead) nanos
  else none

def ofText? (text : String) : Option Instant := decode? text.toList

end CatalogIndex.Stamp
