import CatalogIndex.Document
import CatalogIndex.Error
import CatalogIndex.Json.Reread
import CatalogIndex.Time.Timestamp
/-!
Documents as an on-disk generation stores them: three columns for the identity and one for a JSON object of
all fields. That object is written as text when it is stored and again when it comes back, and the column holds the
texts that are timestamps as such. What comes back has lost the fields without values, and each value is the one
that JSON shows.
-/
namespace CatalogIndex

structure Stored where
  nameSpace : String
  id : String
  itemId : Int64
  fields : Json

namespace Stored

def fieldsColumn : String := "fields"

def missing (field : String) : SearchError := .invalidDocument ("missing " ++ field ++ " field")

/-- A leaf of the object as the column holds it: a timestamp in place of its text, shown by its one spelling. -/
def holdLeaf : Json → Json
  | .text text => .text (((Timestamp.ofText? text).map Timestamp.text).getD text)
  | leaf => leaf

def hold (tree : Json) : Json := tree.mapLeaves holdLeaf

/-- The stored form of a document, which needs its three identity fields. -/
def ofDocument (document : Document) : Except SearchError Stored :=
  match document.id? with
  | none => .error (missing Document.idField)
  | some id =>
    match (document.first? Document.namespaceField).bind Value.asText with
    | none => .error (missing Document.namespaceField)
    | some nameSpace =>
      match (document.first? Document.itemIdField).bind Value.asInteger with
      | none => .error (missing Document.itemIdField)
      | some itemId => .ok ⟨nameSpace, id, itemId, hold document.toJson.reread⟩

def valuesOf (content : Json) : List Json :=
  match content with
  | .array items => items
  | single => [single]

def restoreValue (name : String) (document : Document) (content : Json) : Except SearchError Document :=
  match Value.ofJson? content with
  | some value => .ok (document.addField name value)
  | none => .error (.serialization "data did not match any variant of untagged enum FieldValue")

def restore (members : List (String × Json)) : Except SearchError Document :=
  members.foldlM
    (fun document member => (valuesOf member.2).foldlM (restoreValue member.1) document) Document.empty

def shown : Option Json → Except SearchError Document
  | some (.object members) => restore (Table.ofList members).entries
  | _ => .error (.invalidDocument ("stored document has no " ++ fieldsColumn ++ " object"))

/-- The document in the first of the entries that are put into a column. -/
def ofEntries (entries : List Json) : Except SearchError Document :=
  shown (entries.head?.map fun entry => (hold entry).reread)

def toDocument (stored : Stored) : Except SearchError Document := shown (some stored.fields.reread)

end Stored
end CatalogIndex
