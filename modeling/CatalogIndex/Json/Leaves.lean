import CatalogIndex.Json.Tree
/-!
Changing the leaves of a tree, that is, its texts, numbers, truth values and nulls. The shape and the names stay:
`mapItems_eq_map` and `mapMembers_eq_map` say that items and members are changed one by one in their places.
-/
namespace CatalogIndex.Json

mutual

def mapLeaves (change : Json → Json) : Json → Json
  | .array items => .array (mapItems change items)
  | .object members => .object (mapMembers change members)
  | leaf => change leaf

def mapItems (change : Json → Json) : List Json → List Json
  | [] => []
  | item :: rest => mapLeaves change item :: mapItems change rest

def mapMembers (change : Json → Json) : List (String × Json) → List (String × Json)
  | [] => []
  | (name, item) :: rest => (name, mapLeaves change item) :: mapMembers change rest

end

theorem mapItems_eq_map (change : Json → Json) (items : List Json) :
    mapItems change items = items.map (mapLeaves change) := by
  induction items with
  | nil => rfl
  | cons item rest ih => rw [mapItems, ih, List.map_cons]

theorem mapMembers_eq_map (change : Json → Json) (members : List (String × Json)) :
    mapMembers change members = members.map fun member => (member.1, mapLeaves change member.2) := by
  induction members with
  | nil => rfl
  | cons member rest ih => rw [mapMembers, ih, List.map_cons]

end CatalogIndex.Json
