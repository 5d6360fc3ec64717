import CatalogIndex.Json.Decoder
import CatalogIndex.Value
import CatalogIndex.Table
/-!
The open-ended attributes of a catalog item: values, lists and objects nested in one another. The members of
an object stand in ascending order of their names, which `Attribute.Ordered` says of a whole tree.
-/
namespace CatalogIndex

inductive Attribute where
  | value (value : Value)
  | list (items : List Attribute)
  | object (members : List (String × Attribute))
deriving Repr

namespace Attribute

instance : Inhabited Attribute := ⟨.list []⟩

/-- An object of the given members, the last one of a name counting. -/
def ofMembers (members : List (String × Attribute)) : Attribute :=
  object (Table.ofList members).entries

def member? (name : String) : Attribute → Option Attribute
  | object members => Table.seek name members
  | _ => none

def asValue : Attribute → Option Value
  | value scalar => some scalar
  | _ => none

def asText (tree : Attribute) : Option String := tree.asValue.bind Value.asText

mutual

/-- Whether every object of the tree lists its members by ascending name. -/
def Ordered : Attribute → Prop
  | value _ => True
  | list items => OrderedItems items
  | object members => members.Pairwise (fun left right => left.1 < right.1) ∧ OrderedMembers members

def OrderedItems : List Attribute → Prop
  | [] => True
  | item :: rest => item.Ordered ∧ OrderedItems rest

def OrderedMembers : List (String × Attribute) → Prop
  | [] => True
  | (_, item) :: rest => item.Ordered ∧ OrderedMembers rest

end

mutual

def same : Attribute → Attribute → Bool
  | value left, value right => left.same right
  | list left, list right => sameItems left right
  | object left, object right => sameMembers left right
  | _, _ => false

def sameItems : List Attribute → List Attribute → Bool
  | [], [] => true
  | left :: lefts, right :: rights => left.same right && sameItems lefts rights
  | _, _ => false

def sameMembers : List (String × Attribute) → List (String × Attribute) → Bool
  | [], [] => true
  | (name, left) :: lefts, (other, right) :: rights =>
    name == other && left.same right && sameMembers lefts rights
  | _, _ => false

end

mutual

def toJson : Attribute → Json
  | value scalar => scalar.toJson
  | list items => .array (toJsonItems items)
  | object members => .object (toJsonMembers members)

def toJsonItems : List Attribute → List Json
  | [] => []
  | item :: rest => item.toJson :: toJsonItems rest

def toJsonMembers : List (String × Attribute) → List (String × Json)
  | [] => []
  | (name, item) :: rest => (name, item.toJson) :: toJsonMembers rest

end

mutual

/-- The attribute that a JSON value shows; a null anywhere in it fails the whole. -/
def ofJson? : Json → Option Attribute
  | .array items => (ofJsonItems? items).map list
  | .object members => (ofJsonMembers? members).map ofMembers
  | scalar => (Value.ofJson? scalar).map value

def ofJsonItems? : List Json → Option (List Attribute)
  | [] => some []
  | item :: rest =>
    match ofJson? item, ofJsonItems? rest with
    | some item, some rest => some (item :: rest)
    | _, _ => none

def ofJsonMembers? : List (String × Json) → Option (List (String × Attribute))
  | [] => some []
  | (name, item) :: rest =>
    match ofJson? item, ofJsonMembers? rest with
    | some item, some rest => some ((name, item) :: rest)
    | _, _ => none

end

def encode (tree : Attribute) : String := tree.toJson.render

def decoder : Json.Decoder Attribute := Json.Decoder.untagged "AttributeValue" ofJson?

def decode (source : String) : Except Json.Fault Attribute := decoder.decode source

end Attribute
end CatalogIndex
