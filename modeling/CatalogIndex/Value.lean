import CatalogIndex.Json.Writer
import CatalogIndex.Json.Reader
import CatalogIndex.Time.Stamp
/-!
The values that a search field holds, and how JSON shows them. JSON does not say which kind a value has, so
reading takes the first kind that fits: a text that reads as an instant comes back as that instant.
-/
namespace CatalogIndex

inductive Value where
  | boolean (value : Bool)
  | integer (value : Int64)
  | decimal (value : Binary64)
  | date (value : Instant)
  | text (value : String)
deriving DecidableEq, Repr

namespace Value

instance : Inhabited Value := ⟨.boolean false⟩

def asText : Value → Option String
  | text value => some value
  | _ => none

def asInteger : Value → Option Int64
  | integer value => some value
  | _ => none

/-- Equality as the values see it: decimals compare as numbers. -/
def same : Value → Value → Bool
  | decimal left, decimal right => left.same right
  | left, right => left == right

/-- The words of a value in a delete query. -/
def display : Value → String
  | boolean true => "true"
  | boolean false => "false"
  | integer value => Numeral.ofInt value.toInt
  | decimal value => value.display
  | date value => Stamp.display value
  | text value => value

def toJson : Value → Json
  | boolean value => .bool value
  | integer value => .integer value.toInt
  | decimal value => if value.isFinite then .decimal value else .null
  | date value => .text (Stamp.encode value)
  | text value => .text value

def fitsInteger (n : Int) : Bool := Int64.minValue.toInt ≤ n && n ≤ Int64.maxValue.toInt

/-- The first kind of value that fits, tried in the order boolean, integer, decimal, date, text. -/
def ofJson? : Json → Option Value
  | .bool value => some (boolean value)
  | .integer n => some (if fitsInteger n then integer (Int64.ofInt n) else decimal (Binary64.ofInt n))
  | .decimal x => some (decimal x)
  | .text value =>
    match Stamp.ofText? value with
    | some instant => some (date instant)
    | none => some (text value)
  | _ => none

end Value
end CatalogIndex
