import CatalogIndex.Generation.Stored
/-!
The columns that an on-disk generation needs, and finding them among those that an index has.
-/
namespace CatalogIndex

structure Columns where
  nameSpace : Nat
  id : Nat
  itemId : Nat
  fields : Nat
deriving DecidableEq, Repr

namespace Columns

def position (names : List String) (name : String) : Except SearchError Nat :=
  match names.findIdx? (· == name) with
  | some position => .ok position
  | none => .error (.schemaMismatch ("missing " ++ name ++ " field"))

/-- Finds the needed columns; the first missing one is reported. -/
def ofNames (names : List String) : Except SearchError Columns := do
  return {
    nameSpace := ← position names Document.namespaceField
    id := ← position names Document.idField
    itemId := ← position names Document.itemIdField
    fields := ← position names Stored.fieldsColumn }

end Columns
end CatalogIndex
