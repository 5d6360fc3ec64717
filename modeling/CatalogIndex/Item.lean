import CatalogIndex.Attribute
/-!
Catalog items and the categories they belong to. A category may have several parents and may be reached over
several paths; its closure lists every category once, in the order in which a walk up the parents meets them.
-/
namespace CatalogIndex

/-- A category with the items assigned to it, in display order, and its parent categories. -/
inductive Category where
  | mk (id : Int64) (name : String) (itemIds : List Int64) (parents : List Category)
deriving Repr

namespace Category

def id : Category → Int64
  | mk id _ _ _ => id

def name : Category → String
  | mk _ name _ _ => name

def itemIds : Category → List Int64
  | mk _ _ itemIds _ => itemIds

def parents : Category → List Category
  | mk _ _ _ parents => parents

instance : Inhabited Category := ⟨mk 0 "" [] []⟩

def position? (category : Category) (itemId : Int64) : Option Nat :=
  category.itemIds.findIdx? (· == itemId)

mutual

/-- Every category met on the way up, over every path and as often as it is met. -/
def walk : Category → List Int64
  | mk id _ _ parents => id :: walkAll parents

def walkAll : List Category → List Int64
  | [] => []
  | category :: rest => category.walk ++ walkAll rest

end

mutual

/-- Adds what is met on the way up to the categories already seen; above a seen category nothing is visited. -/
def collect (seen : List Int64) : Category → List Int64
  | mk id _ _ parents => if seen.contains id then seen else collectAll (seen ++ [id]) parents

def collectAll (seen : List Int64) : List Category → List Int64
  | [] => seen
  | category :: rest => collectAll (category.collect seen) rest

end

def hierarchy (category : Category) : List Int64 := category.collect []

end Category

structure Item where
  id : Int64
  categories : List Category
  attributes : Table Attribute
  /-- Localized texts by property path, then by locale code. -/
  translations : Table (Table String)
  activeStart : Option Instant
  activeEnd : Option Instant

namespace Item

def new (id : Int64) : Item := ⟨id, [], .empty, .empty, none, none⟩

/-- Whether the active window contains an instant; the start belongs to it, the end does not. -/
def isActiveAt (item : Item) (asOf : Instant) : Bool :=
  item.activeStart.all (fun start => decide (start ≤ asOf)) &&
    item.activeEnd.all (fun stop => decide (asOf < stop))

def categoryClosure (item : Item) : List Int64 := Category.collectAll [] item.categories

end Item
end CatalogIndex
