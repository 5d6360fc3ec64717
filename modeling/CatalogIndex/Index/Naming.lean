import CatalogIndex.Field
/-!
The names of generated fields and documents. They are the same in every rebuild, so queries made for one
generation of the index work on the next.
-/
namespace CatalogIndex.Naming

def explicitCategoryField : String := "explicitCategory"

/-- The field of all categories that an item belongs to. -/
def categoryField : String := "category"

/-- The field of a descriptor for one type and one locale: abbreviation, locale and type suffix, the empty ones
left out, joined by underscores. -/
def propertyField (descriptor : Descriptor) (fieldType : FieldType) (locale : String) : String :=
  "_".intercalate ([descriptor.abbreviation, locale, fieldType.suffix].filter (· ≠ ""))

def categorySortField (categoryId : Int64) : String :=
  "category_" ++ Numeral.ofInt categoryId.toInt ++ "_sort_i"

def documentId (nameSpace : String) (itemId : Int64) : String :=
  nameSpace ++ "_" ++ Numeral.ofInt itemId.toInt

end CatalogIndex.Naming
