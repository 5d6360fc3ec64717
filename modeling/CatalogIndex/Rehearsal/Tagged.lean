import CatalogIndex.Document
import CatalogIndex.Index.Extension
import CatalogIndex.Json.Access
import CatalogIndex.Text.Quoted
/-!
The exact form of values in rehearsals: each value is an object of one member, whose name tells its kind.
Unlike plain JSON this form keeps texts apart from instants, and shows every decimal by its bits.
-/
namespace CatalogIndex.Tagged

def instant (json : Json) : Instant :=
  match json.elements with
  | [seconds, nanos] => (Instant.ofParts? seconds.asInt nanos.asNat).getD default
  | _ => default

def instant? : Json → Option Instant
  | .null => none
  | json => some (instant json)

def ofInstant (instant : Instant) : Json := .array [.integer instant.seconds, .ofNat instant.nanos]

def bits (digits : String) : UInt64 :=
  UInt64.ofNat (digits.toList.foldl (fun total c => total * 16 + (Json.hexValue c).getD 0) 0)

def ofBits (bits : UInt64) : String :=
  let digits := Quoted.hexDigits bits.toNat
  String.ofList (List.replicate (16 - digits.length) '0' ++ digits)

def value (json : Json) : Value :=
  match json with
  | .object [("b", content)] => .boolean content.asFlag
  | .object [("i", content)] => .integer content.asInt64
  | .object [("f", content)] => .decimal ⟨bits content.asText⟩
  | .object [("d", content)] => .date (instant content)
  | .object [("t", content)] => .text content.asText
  | _ => default

def ofValue : Value → Json
  | .boolean value => .object [("b", .bool value)]
  | .integer value => .object [("i", .integer value.toInt)]
  | .decimal value => .object [("f", .text (ofBits value.bits))]
  | .date value => .object [("d", ofInstant value)]
  | .text value => .object [("t", .text value)]

def values (json : Json) : List Value := json.elements.map value

def ofValues (values : List Value) : Json := .array (values.map ofValue)

mutual

/-- Lists and objects are tagged too; what is tagged as JSON is read as the kind that fits. -/
def tree : Json → Attribute
  | .object [("l", .array items)] => .list (attributes items)
  | .object [("o", .object members)] => .ofMembers (attributeMembers members)
  | .object [("json", content)] => (Attribute.ofJson? content).getD default
  | json => .value (value json)

def attributes : List Json → List Attribute
  | [] => []
  | json :: rest => tree json :: attributes rest

def attributeMembers : List (String × Json) → List (String × Attribute)
  | [] => []
  | (name, json) :: rest => (name, tree json) :: attributeMembers rest

end

mutual

def ofAttribute : Attribute → Json
  | .value value => ofValue value
  | .list items => .object [("l", .array (ofAttributes items))]
  | .object members => .object [("o", .object (ofMembers members))]

def ofAttributes : List Attribute → List Json
  | [] => []
  | item :: rest => ofAttribute item :: ofAttributes rest

def ofMembers : List (String × Attribute) → List (String × Json)
  | [] => []
  | (name, item) :: rest => (name, ofAttribute item) :: ofMembers rest

end

def lists (json : Json) : Table (List Value) :=
  Table.ofList (json.entries.map fun (name, content) => (name, values content))

def ofLists (lists : Table (List Value)) : Json :=
  .object (lists.entries.map fun (name, values) => (name, ofValues values))

def document (json : Json) : Document := ⟨lists json⟩

def documents (json : Json) : List Document := json.elements.map document

def ofDocument (document : Document) : Json := ofLists document.fields

end CatalogIndex.Tagged
