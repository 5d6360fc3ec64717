import CatalogIndex.Item
import CatalogIndex.Field
/-!
A stock of sauces to rehearse with: items in a small category tree with a shared ancestor, in two languages.
-/
namespace CatalogIndex.Sauces

/-- The name as searchable text with a facet, a localized description, the color out of a list of named
attributes, and the price as a facet. -/
def descriptors : List Descriptor := [
  ⟨"name", "name", true, [.text], some .string⟩,
  ⟨"description", "description", true, [.text], none⟩,
  ⟨"productAttributes.color", "color", true, [.string], some .string⟩,
  ⟨"price", "price", false, [], some .price⟩]

def locales : List Locale := [⟨"en_US", none, true⟩, ⟨"es_ES", none, false⟩]

def sauces : Category := .mk 2 "Sauces" [] [.mk 1 "Root" [] []]

def hot : Category := .mk 3 "Hot" ((List.range 20).map fun position => Int64.ofNat (position + 1)) [sauces]

def gifts : Category := .mk 4 "Gifts" [5, 3] [sauces]

def color (id : Nat) : String :=
  match id % 3 with
  | 0 => "red"
  | 1 => "green"
  | _ => "orange"

def item (id : Nat) : Item where
  id := Int64.ofNat id
  categories := if id % 5 = 0 then [hot, gifts] else [hot]
  attributes := Table.ofList [
    ("name", .value (.text ("Sauce " ++ Numeral.ofNat id))),
    ("price", .value (.decimal (Binary64.ofRatio false (9 + 2 * id) 2))),
    ("productAttributes", .list [Attribute.ofMembers [
      ("name", .value (.text "color")), ("value", .value (.text (color id)))]])]
  translations := Table.ofList [("description", Table.ofList [
    ("en_US", "Hot sauce number " ++ Numeral.ofNat id),
    ("es_ES", "Salsa picante número " ++ Numeral.ofNat id)])]
  activeStart := none
  activeEnd := none

def stock (count : Nat) : List Item := (List.range count).map fun position => item (position + 1)

end CatalogIndex.Sauces
