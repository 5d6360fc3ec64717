import CatalogIndex.Json.Tree
/-!
Looking into JSON trees. What is missing, or of another kind than asked for, reads as null, as nothing, as the
empty text, as zero or as false.
-/
namespace CatalogIndex.Json

/-- The last member of a name. -/
def member : Json → String → Json
  | object members, name => ((members.reverse.find? fun entry => entry.1 == name).map (·.2)).getD null
  | _, _ => null

instance : GetElem Json String Json fun _ _ => True where
  getElem json name _ := json.member name

def has (name : String) : Json → Bool
  | object members => members.any fun entry => entry.1 == name
  | _ => false

def elements : Json → List Json
  | array items => items
  | _ => []

def entries : Json → List (String × Json)
  | object members => members
  | _ => []

def asText? : Json → Option String
  | text value => some value
  | _ => none

def asText (json : Json) : String := json.asText?.getD ""

def asTexts (json : Json) : List String := json.elements.map asText

def asInt? : Json → Option Int
  | integer n => some n
  | _ => none

def asInt (json : Json) : Int := json.asInt?.getD 0

def asNat? (json : Json) : Option Nat := json.asInt?.map Int.toNat

def asNat (json : Json) : Nat := json.asInt.toNat

def asNats (json : Json) : List Nat := json.elements.map asNat

def asWord? (json : Json) : Option UInt64 := json.asNat?.map UInt64.ofNat

def asWord (json : Json) : UInt64 := UInt64.ofNat json.asNat

def asWords (json : Json) : List UInt64 := json.elements.map asWord

def asInt64 (json : Json) : Int64 := Int64.ofInt json.asInt

def asFlag : Json → Bool
  | bool value => value
  | _ => false

def orNull {α : Type} (encode : α → Json) (value : Option α) : Json := (value.map encode).getD null

def ofNat (n : Nat) : Json := integer n

def texts (list : List String) : Json := array (list.map text)

end CatalogIndex.Json
