import CatalogIndex.Json.Decoder
/-!
Field configuration: which properties of an item are indexed, under which types, and for which locales.
-/
namespace CatalogIndex

inductive FieldType where
  | text
  | string
  | strings
  | integer
  | integers
  | long
  | decimal
  | decimals
  | boolean
  | date
  | price
deriving DecidableEq, Repr

namespace FieldType

def suffix : FieldType → String
  | text => ""
  | string => "s"
  | strings => "ss"
  | integer => "i"
  | integers => "is"
  | long => "l"
  | decimal => "d"
  | decimals => "ds"
  | boolean => "b"
  | date => "dt"
  | price => "p"

def isMultiValued : FieldType → Bool
  | strings | integers | decimals => true
  | _ => false

def name : FieldType → String
  | text => "text"
  | string => "string"
  | strings => "strings"
  | integer => "integer"
  | integers => "integers"
  | long => "long"
  | decimal => "decimal"
  | decimals => "decimals"
  | boolean => "boolean"
  | date => "date"
  | price => "price"

def all : List FieldType :=
  [text, string, strings, integer, integers, long, decimal, decimals, boolean, date, price]

theorem mem_all (fieldType : FieldType) : fieldType ∈ all := by cases fieldType <;> decide

theorem suffix_injective {left right : FieldType} (same : left.suffix = right.suffix) : left = right := by
  cases left <;> cases right <;> first | rfl | exact absurd same (by decide)

def variants : List (String × FieldType) := all.map fun fieldType => (fieldType.name, fieldType)

def decoder : Json.Decoder FieldType := Json.Decoder.choice variants

def ofJson (tree : Json) : Except Json.Fault FieldType := Json.Decoder.choiceOfTree variants tree

def toJson (fieldType : FieldType) : Json := .text fieldType.name

end FieldType

structure Descriptor where
  /-- The path of the property in the item. -/
  propertyName : String
  /-- The first part of the generated field names. -/
  abbreviation : String
  searchable : Bool
  searchableTypes : List FieldType
  facetType : Option FieldType
deriving DecidableEq, Repr

namespace Descriptor

def qualifiedName (descriptor : Descriptor) : String := "item." ++ descriptor.propertyName

structure Draft where
  propertyName : Option String
  abbreviation : Option String
  searchable : Option Bool
  searchableTypes : Option (List FieldType)
  facetType : Option (Option FieldType)

open Json.Decoder in
def shape : Shape Draft where
  name := "FieldDescriptor"
  slots := [
    slot "property_name" true (·.propertyName) (fun draft value => { draft with propertyName := some value }) text,
    slot "abbreviation" true (·.abbreviation) (fun draft value => { draft with abbreviation := some value }) text,
    slot "searchable" false (·.searchable) (fun draft value => { draft with searchable := some value }) bool,
    slot "searchable_field_types" false (·.searchableTypes)
      (fun draft value => { draft with searchableTypes := some value }) (many FieldType.decoder),
    slot "facet_field_type" false (·.facetType) (fun draft value => { draft with facetType := some value })
      (optional FieldType.decoder)]
  start := ⟨none, none, none, none, none⟩

def ofDraft (draft : Draft) : Descriptor where
  propertyName := draft.propertyName.getD ""
  abbreviation := draft.abbreviation.getD ""
  searchable := draft.searchable.getD false
  searchableTypes := draft.searchableTypes.getD []
  facetType := draft.facetType.getD none

def decoder : Json.Decoder Descriptor := fun depth chars =>
  (shape.decode depth chars).map fun (draft, rest) => (ofDraft draft, rest)

def toJson (descriptor : Descriptor) : Json :=
  .object [
    ("property_name", .text descriptor.propertyName),
    ("abbreviation", .text descriptor.abbreviation),
    ("searchable", .bool descriptor.searchable),
    ("searchable_field_types", .array (descriptor.searchableTypes.map FieldType.toJson)),
    ("facet_field_type", (descriptor.facetType.map FieldType.toJson).getD .null)]

end Descriptor

structure Locale where
  code : String
  friendlyName : Option String
  isDefault : Bool
deriving DecidableEq, Repr

namespace Locale

structure Draft where
  code : Option String
  friendlyName : Option (Option String)
  isDefault : Option Bool

open Json.Decoder in
def shape : Shape Draft where
  name := "Locale"
  slots := [
    slot "code" true (·.code) (fun draft value => { draft with code := some value }) text,
    slot "friendly_name" false (·.friendlyName) (fun draft value => { draft with friendlyName := some value })
      (optional text),
    slot "is_default" false (·.isDefault) (fun draft value => { draft with isDefault := some value }) bool]
  start := ⟨none, none, none⟩

def ofDraft (draft : Draft) : Locale :=
  ⟨draft.code.getD "", draft.friendlyName.getD none, draft.isDefault.getD false⟩

def decoder : Json.Decoder Locale := fun depth chars =>
  (shape.decode depth chars).map fun (draft, rest) => (ofDraft draft, rest)

def toJson (locale : Locale) : Json :=
  .object [
    ("code", .text locale.code),
    ("friendly_name", (locale.friendlyName.map Json.text).getD .null),
    ("is_default", .bool locale.isDefault)]

end Locale
end CatalogIndex
