import CatalogIndex.Error
import CatalogIndex.Json.Decoder
/-!
The settings of a rebuild, their defaults, and the conditions that they have to meet.
-/
namespace CatalogIndex

inductive GenerationMode where
  /-- An active generation and a standby that rebuilds write and swap in. -/
  | dual
  /-- One generation that is cleared and rebuilt in place. -/
  | shared
deriving DecidableEq, Repr

namespace GenerationMode

def name : GenerationMode → String
  | dual => "dual"
  | shared => "shared"

def variants : List (String × GenerationMode) := [("dual", dual), ("shared", shared)]

def decoder : Json.Decoder GenerationMode := Json.Decoder.choice variants

def toJson (mode : GenerationMode) : Json := .text mode.name

end GenerationMode

/-- How list-valued attributes are read by name: an element of the list is selected by the text of its key
member, and its value member is read. -/
structure MappedList where
  listProperty : String
  keyMember : String
  valueMember : String
deriving DecidableEq, Repr

namespace MappedList

def standard : MappedList := ⟨"productAttributes", "name", "value"⟩

instance : Inhabited MappedList := ⟨standard⟩

structure Draft where
  listProperty : Option String
  keyMember : Option String
  valueMember : Option String

open Json.Decoder in
def shape : Shape Draft where
  name := "MappedListSettings"
  slots := [
    slot "list_property" false (·.listProperty) (fun draft value => { draft with listProperty := some value }) text,
    slot "key_member" false (·.keyMember) (fun draft value => { draft with keyMember := some value }) text,
    slot "value_member" false (·.valueMember) (fun draft value => { draft with valueMember := some value }) text]
  start := ⟨none, none, none⟩

def ofDraft (draft : Draft) : MappedList where
  listProperty := draft.listProperty.getD standard.listProperty
  keyMember := draft.keyMember.getD standard.keyMember
  valueMember := draft.valueMember.getD standard.valueMember

def decoder : Json.Decoder MappedList := fun depth chars =>
  (shape.decode depth chars).map fun (draft, rest) => (ofDraft draft, rest)

def toJson (settings : MappedList) : Json :=
  .object [
    ("list_property", .text settings.listProperty),
    ("key_member", .text settings.keyMember),
    ("value_member", .text settings.valueMember)]

end MappedList

structure Settings where
  pageSize : UInt64
  /-- Written into every document to keep tenants apart. -/
  nameSpace : String
  mode : GenerationMode
  indexRoot : String
  /-- Memory for index writers, in megabytes. -/
  writerMemory : UInt64
  mappedList : MappedList
deriving DecidableEq, Repr

namespace Settings

def standard (indexRoot : String) : Settings := ⟨100, "d", .dual, indexRoot, 50, .standard⟩

def validate (settings : Settings) : Except CatalogError Unit :=
  if settings.pageSize = 0 then .error (.config "page_size must be > 0")
  else if settings.nameSpace = "" then .error (.config "namespace must not be empty")
  else if settings.mappedList.listProperty = "" then
    .error (.config "mapped_list.list_property must not be empty")
  else .ok ()

/-- A path below a directory; what is absolute stands for itself. -/
def join (directory path : String) : String :=
  if path.startsWith "/" || directory = "" then path
  else if directory.endsWith "/" then directory ++ path
  else directory ++ "/" ++ path

def primaryPath (settings : Settings) : String := join settings.indexRoot "primary"

def reindexPath (settings : Settings) : String := join settings.indexRoot "reindex"

structure Draft where
  pageSize : Option UInt64
  nameSpace : Option String
  mode : Option GenerationMode
  indexRoot : Option String
  writerMemory : Option UInt64
  mappedList : Option MappedList

open Json.Decoder in
def shape : Shape Draft where
  name := "Settings"
  slots := [
    slot "page_size" false (·.pageSize) (fun draft value => { draft with pageSize := some value }) word,
    slot "namespace" false (·.nameSpace) (fun draft value => { draft with nameSpace := some value }) text,
    slot "generation_mode" false (·.mode) (fun draft value => { draft with mode := some value })
      GenerationMode.decoder,
    slot "index_root" false (·.indexRoot) (fun draft value => { draft with indexRoot := some value }) text,
    slot "writer_memory_mb" false (·.writerMemory) (fun draft value => { draft with writerMemory := some value })
      word,
    slot "mapped_list" false (·.mappedList) (fun draft value => { draft with mappedList := some value })
      MappedList.decoder]
  start := ⟨none, none, none, none, none, none⟩

def ofDraft (indexRoot : String) (draft : Draft) : Settings :=
  let base := standard indexRoot
  { pageSize := draft.pageSize.getD base.pageSize
    nameSpace := draft.nameSpace.getD base.nameSpace
    mode := draft.mode.getD base.mode
    indexRoot := draft.indexRoot.getD base.indexRoot
    writerMemory := draft.writerMemory.getD base.writerMemory
    mappedList := draft.mappedList.getD base.mappedList }

def decoder (indexRoot : String) : Json.Decoder Settings := fun depth chars =>
  (shape.decode depth chars).map fun (draft, rest) => (ofDraft indexRoot draft, rest)

def toJson (settings : Settings) : Json :=
  .object [
    ("page_size", .integer settings.pageSize.toNat),
    ("namespace", .text settings.nameSpace),
    ("generation_mode", settings.mode.toJson),
    ("index_root", .text settings.indexRoot),
    ("writer_memory_mb", .integer settings.writerMemory.toNat),
    ("mapped_list", settings.mappedList.toJson)]

end Settings
end CatalogIndex
