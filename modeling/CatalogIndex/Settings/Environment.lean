import CatalogIndex.Number.Reading
import CatalogIndex.Settings.Key
import CatalogIndex.Table
import CatalogIndex.Value
/-!
The layer of settings that environment variables make. A variable counts when its name starts with
`catalog_search_` in any case; after that `__` separates a table from its members. The text of a variable is
taken for a truth value or a number when it reads as one.
-/
namespace CatalogIndex.EnvironmentLayer

def mark : List Char := "catalog_search_".toList

/-- Writes every `__` as a point. -/
def points : List Char → List Char
  | '_' :: '_' :: rest => '.' :: points rest
  | c :: rest => c :: points rest
  | [] => []

def keyOf? (name : String) : Option String :=
  let chars := (Key.lower name).toList
  if mark.isPrefixOf chars then some (String.ofList (points (chars.drop mark.length))) else none

def integer? (text : String) : Option Int :=
  let (negative, digits) := Binary64.sign text.toList
  (Numeral.toNat? digits).bind fun n =>
    let n : Int := if negative then -n else n
    if Value.fitsInteger n then some n else none

/-- What the text of a variable reads as: a truth value, a whole number, a number, or a text. -/
def read (text : String) : Json :=
  let word := Key.lower text
  if word = "true" then .bool true
  else if word = "false" then .bool false
  else match integer? text with
    | some n => .integer n
    | none =>
      match Binary64.ofText? text with
      | some x => .decimal x
      | none => .text text

def ofVariables (environment : Table String) : Json :=
  .object (Table.ofList (environment.entries.filterMap fun (name, text) =>
    (keyOf? name).map fun key => (key, read text))).entries

end CatalogIndex.EnvironmentLayer
