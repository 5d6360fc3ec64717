import CatalogIndex.Json.Decoder
import CatalogIndex.Value
import CatalogIndex.Table
/-!
Index documents: generated field names with one or more values each. Adding to a field appends, so what was
first stays first.
-/
namespace CatalogIndex

structure Document where
  fields : Table (List Value)
deriving DecidableEq

namespace Document

def namespaceField : String := "namespace"

def idField : String := "id"

def itemIdField : String := "itemId"

def empty : Document := ⟨.empty⟩

instance : Inhabited Document := ⟨empty⟩

/-- Appends values to a field; the field is there afterwards even when there are none. -/
def addValues (document : Document) (name : String) (values : List Value) : Document :=
  ⟨document.fields.alter name fun present => present.getD [] ++ values⟩

def addField (document : Document) (name : String) (value : Value) : Document :=
  document.addValues name [value]

def addAll (document : Document) (additions : List (String × List Value)) : Document :=
  additions.foldl (fun document addition => document.addValues addition.1 addition.2) document

def contains (document : Document) (name : String) : Bool := document.fields.contains name

def values (document : Document) (name : String) : List Value := (document.fields.find? name).getD []

def first? (document : Document) (name : String) : Option Value := (document.values name).head?

/-- The unique document id, if the first value of its field is a text. -/
def id? (document : Document) : Option String := (document.first? idField).bind Value.asText

def names (document : Document) : List String := document.fields.keys

def size (document : Document) : Nat := document.fields.size

def same (left right : Document) : Bool :=
  sameEntries left.fields.entries right.fields.entries
where
  sameValues : List Value → List Value → Bool
    | [], [] => true
    | left :: lefts, right :: rights => left.same right && sameValues lefts rights
    | _, _ => false
  sameEntries : List (String × List Value) → List (String × List Value) → Bool
    | [], [] => true
    | (name, left) :: lefts, (other, right) :: rights =>
      name == other && sameValues left right && sameEntries lefts rights
    | _, _ => false

def toJson (document : Document) : Json :=
  .object (document.fields.entries.map fun (name, values) => (name, .array (values.map Value.toJson)))

def encode (document : Document) : String := document.toJson.render

def decoder : Json.Decoder Document := fun depth chars => do
  let (fields, rest) ←
    Json.Decoder.map (Json.Decoder.many (Json.Decoder.untagged "FieldValue" Value.ofJson?)) depth chars
  return (⟨Table.ofList fields⟩, rest)

def decode (source : String) : Except Json.Fault Document := decoder.decode source

@[simp] theorem values_addValues (document : Document) (name other : String) (values : List Value) :
    (document.addValues name values).values other =
      if other = name then document.values other ++ values else document.values other := by
  simp only [Document.values, addValues, Table.alter, Table.find?_insert]
  split <;> simp_all

theorem contains_addValues (document : Document) (name other : String) (values : List Value) :
    (document.addValues name values).contains other =
      (decide (other = name) || document.contains other) := by
  simp only [contains, Table.contains, addValues, Table.alter, Table.find?_insert]
  split <;> simp_all

end Document
end CatalogIndex
