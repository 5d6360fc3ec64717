import CatalogIndex.Item
/-!
A catalog kept in memory, in the order of the item ids, and how it is read page by page. The pages of one
instant, put together, are the items that are active then.
-/
namespace CatalogIndex

def pageCount (total size : UInt64) : UInt64 :=
  if size = 0 then 0 else UInt64.ofNat ((total.toNat + (size.toNat - 1)) / size.toNat)

structure Catalog where
  items : List Item

namespace Catalog

def empty : Catalog := ⟨[]⟩

/-- The items in the order of their ids; items of one id keep their order. -/
def ofItems (items : List Item) : Catalog := ⟨items.mergeSort fun left right => decide (left.id ≤ right.id)⟩

/-- Halves a stretch of items in the order of their ids, by the item in its middle, until one item is left: the last one
of the stretch with at most the given id, or its first one. -/
def halve (items : List Item) (id : Int64) (first count : Nat) : Nat :=
  if count ≤ 1 then first
  else
    let middle := first + count / 2
    if items[middle]?.any fun other => decide (id < other.id) then halve items id first (count - count / 2)
    else halve items id middle (count - count / 2)
termination_by count
decreasing_by all_goals omega

inductive Spot where
  | taken (position : Nat)
  | free (position : Nat)
deriving DecidableEq, Repr

/-- Where an item of an id belongs among items in the order of their ids; of several items of the id it is the last
one. -/
def seek (items : List Item) (id : Int64) : Spot :=
  let position := halve items id 0 items.length
  match items[position]? with
  | none => .free position
  | some other =>
    if other.id = id then .taken position
    else if other.id < id then .free (position + 1)
    else .free position

def upsert (catalog : Catalog) (item : Item) : Catalog :=
  match seek catalog.items item.id with
  | .taken position => ⟨catalog.items.set position item⟩
  | .free position => ⟨catalog.items.insertIdx position item⟩

def active (catalog : Catalog) (asOf : Instant) : List Item := catalog.items.filter (·.isActiveAt asOf)

def countActive (catalog : Catalog) (asOf : Instant) : UInt64 := UInt64.ofNat (catalog.active asOf).length

/-- The active items before a page; the product stays within a 64-bit word. -/
def skipped (page size : UInt64) : Nat := min (page.toNat * size.toNat) (UInt64.size - 1)

def pageActive (catalog : Catalog) (page size : UInt64) (asOf : Instant) : List Item :=
  ((catalog.active asOf).drop (skipped page size)).take size.toNat

end Catalog
end CatalogIndex
