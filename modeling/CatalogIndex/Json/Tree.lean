import CatalogIndex.Number.Binary64
/-!
JSON values as trees. Members keep their order and may repeat a name; what a repetition means is decided by
whoever reads the tree.
-/
namespace CatalogIndex

inductive Json where
  | null
  | bool (value : Bool)
  /-- A number without fraction and exponent that fits a signed or an unsigned 64-bit word. -/
  | integer (value : Int)
  | decimal (value : Binary64)
  | text (value : String)
  | array (items : List Json)
  | object (members : List (String × Json))
deriving Repr

namespace Json

instance : Inhabited Json := ⟨.null⟩

def fitsWord (n : Int) : Bool := Int64.minValue.toInt ≤ n && n < UInt64.size

mutual

def depth : Json → Nat
  | array items => depthOfItems items + 1
  | object members => depthOfMembers members + 1
  | _ => 0

def depthOfItems : List Json → Nat
  | [] => 0
  | item :: rest => max item.depth (depthOfItems rest)

def depthOfMembers : List (String × Json) → Nat
  | [] => 0
  | (_, item) :: rest => max item.depth (depthOfMembers rest)

end

end Json
end CatalogIndex
