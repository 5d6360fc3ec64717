import CatalogIndex.Json.Leaves
import CatalogIndex.Json.Reader
import CatalogIndex.Json.Writer
/-!
Trees that have been written and read again. Only decimals may come back changed, and those in their last bits.
-/
namespace CatalogIndex.Json

def rereadDecimal (x : Binary64) : Json :=
  match number (writeDecimal x) with
  | .ok (tree, _) => tree
  | .error _ => .decimal x

def rereadLeaf : Json → Json
  | .decimal x => rereadDecimal x
  | leaf => leaf

def reread (tree : Json) : Json := tree.mapLeaves rereadLeaf

end CatalogIndex.Json
