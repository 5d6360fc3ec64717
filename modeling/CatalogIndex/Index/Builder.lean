import CatalogIndex.Index.Extension
import CatalogIndex.Index.Naming
import CatalogIndex.Index.PropertyPath
/-!
Documents from catalog items. A document gets its identity, the basic fields of the extensions, its categories,
and then the contributions of each descriptor. A descriptor whose values cannot be had is left out from there
on; only a failing basic-field handler leaves the item without a document.
-/
namespace CatalogIndex

structure Builder where
  nameSpace : String
  chain : Chain
  mappedList : MappedList

namespace Builder

def valuesAtPath (builder : Builder) (resolution : Resolution) : Except ResolveError PropertyValues := do
  let path ← PropertyPath.parse builder.mappedList resolution.descriptor.propertyName
  let tree ← path.evaluate resolution.item
  let values ← PropertyPath.toValues path.text tree
  return Table.empty.insert "" values

/-- The values of a descriptor: the extensions come first, the path is read when none has them. -/
def resolve (builder : Builder) (resolution : Resolution) : Consultation (Except ResolveError PropertyValues) :=
  (builder.chain.resolve resolution).bind fun reply =>
    match reply with
    | .ok (some values) => .done (.ok values)
    | .ok none => .done (builder.valuesAtPath resolution)
    | .error error => .done (.error (.extension error))

/-- A document under construction, with the names that searchable contributions have used. -/
structure Draft where
  document : Document
  used : List String

def Draft.addSearchable (descriptor : Descriptor) (fieldType : FieldType) (draft : Draft)
    (values : PropertyValues) : Draft :=
  values.entries.foldl (fun draft entry =>
    let name := Naming.propertyField descriptor fieldType entry.1
    ⟨draft.document.addValues name entry.2, name :: draft.used⟩) draft

/-- Adds the values of a facet under the names that no searchable contribution has used. -/
def Draft.addFacet (descriptor : Descriptor) (fieldType : FieldType) (draft : Draft)
    (values : PropertyValues) : Draft :=
  values.entries.foldl (fun draft entry =>
    let name := Naming.propertyField descriptor fieldType entry.1
    if draft.used.contains name then draft
    else { draft with document := draft.document.addValues name entry.2 }) draft

/-- Adds the searchable types in turn up to the first that cannot be resolved; tells whether all could. -/
def attachTypes (builder : Builder) (resolution : FieldType → Resolution) (descriptor : Descriptor)
    (types : List FieldType) (draft : Draft) : Consultation (Bool × Draft) :=
  match types with
  | [] => .done (true, draft)
  | fieldType :: rest =>
    (builder.resolve (resolution fieldType)).bind fun reply =>
      match reply with
      | .ok values =>
        attachTypes builder resolution descriptor rest (draft.addSearchable descriptor fieldType values)
      | .error _ => .done (false, draft)

/-- Adds the contributions of a descriptor: its searchable types and then, if all of them could be resolved, its
facet. -/
def attachDescriptor (builder : Builder) (item : Item) (locales : List Locale) (request : RequestContext)
    (descriptor : Descriptor) (draft : Draft) : Consultation Draft :=
  let resolution (fieldType : FieldType) : Resolution := ⟨item, descriptor, fieldType, locales, request⟩
  let types := if descriptor.searchable then descriptor.searchableTypes else []
  (attachTypes builder resolution descriptor types draft).bind fun (complete, draft) =>
    match complete, descriptor.facetType with
    | true, some facetType =>
      (builder.resolve (resolution facetType)).bind fun reply =>
        match reply with
        | .ok values => .done (draft.addFacet descriptor facetType values)
        | .error _ => .done draft
    | _, _ => .done draft

def attachDescriptors (builder : Builder) (item : Item) (locales : List Locale) (request : RequestContext)
    (descriptors : List Descriptor) (draft : Draft) : Consultation Draft :=
  match descriptors with
  | [] => .done draft
  | descriptor :: rest =>
    (attachDescriptor builder item locales request descriptor draft).bind
      (attachDescriptors builder item locales request rest)

def identity (builder : Builder) (item : Item) : Document :=
  ((Document.empty.addField Document.namespaceField (.text builder.nameSpace)).addField Document.idField
    (.text (Naming.documentId builder.nameSpace item.id))).addField Document.itemIdField (.integer item.id)

/-- The position of an item in a category, −1 when the category does not list it. -/
def sortPosition (category : Category) (itemId : Int64) : Int64 :=
  match category.position? itemId with
  | some position => Int64.ofNat position
  | none => -1

/-- The fields of the categories: for each direct one its id and the position in it, then the closure. -/
def categoryFields (item : Item) : List (String × List Value) :=
  (item.categories.flatMap fun category =>
    [(Naming.explicitCategoryField, [.integer category.id]),
      (Naming.categorySortField category.id, [.integer (sortPosition category item.id)])]) ++
    item.categoryClosure.map fun categoryId => (Naming.categoryField, [.integer categoryId])

def build (builder : Builder) (item : Item) (descriptors : List Descriptor) (locales : List Locale)
    (request : RequestContext) : Consultation (Except ExtensionError Document) :=
  (builder.chain.attach item (builder.identity item)).bind fun (document, outcome) =>
    match outcome with
    | .error error => .done (.error error)
    | .ok _ =>
      (attachDescriptors builder item locales request descriptors
        ⟨document.addAll (categoryFields item), []⟩).bind fun draft => .done (.ok draft.document)

def buildAll (builder : Builder) (items : List Item) (descriptors : List Descriptor) (locales : List Locale)
    (request : RequestContext) : Consultation (Except ExtensionError (List Document)) :=
  match items with
  | [] => .done (.ok [])
  | item :: rest =>
    (builder.build item descriptors locales request).bind fun reply =>
      match reply with
      | .error error => .done (.error error)
      | .ok document =>
        (buildAll builder rest descriptors locales request).bind fun reply =>
          .done (reply.map fun documents => document :: documents)

/-! ### What every part of a consultation has -/

/-- A property of consultations that answers have and that binds keep. -/
structure Binds (holds : {α : Type} → Consultation α → Prop) : Prop where
  done {α : Type} (answer : α) : holds (.done answer)
  bind {α β : Type} {consultation : Consultation α} {next : α → Consultation β} (first : holds consultation)
    (later : ∀ answer, holds (next answer)) : holds (consultation.bind next)

section

variable {holds : {α : Type} → Consultation α → Prop} {builder : Builder} {item : Item} {locales : List Locale}
  {request : RequestContext}

theorem binds_attachTypes (binds : Binds holds) {resolution : FieldType → Resolution}
    (resolves : ∀ fieldType, holds (builder.resolve (resolution fieldType))) (descriptor : Descriptor)
    (types : List FieldType) (draft : Draft) : holds (attachTypes builder resolution descriptor types draft) := by
  induction types generalizing draft with
  | nil => exact binds.done _
  | cons fieldType rest ih =>
    refine binds.bind (resolves fieldType) fun reply => ?_
    cases reply with
    | ok values => exact ih _
    | error error => exact binds.done _

theorem binds_attachDescriptor (binds : Binds holds) (descriptor : Descriptor)
    (resolves : ∀ fieldType, holds (builder.resolve ⟨item, descriptor, fieldType, locales, request⟩)) (draft : Draft) :
    holds (attachDescriptor builder item locales request descriptor draft) := by
  refine binds.bind (binds_attachTypes binds resolves _ _ _) fun result => ?_
  obtain ⟨complete, draft⟩ := result
  dsimp only
  split
  · refine binds.bind (resolves _) fun reply => ?_
    cases reply with
    | ok values => exact binds.done _
    | error error => exact binds.done _
  · exact binds.done _

theorem binds_attachDescriptors (binds : Binds holds)
    (resolves : ∀ descriptor fieldType, holds (builder.resolve ⟨item, descriptor, fieldType, locales, request⟩))
    (descriptors : List Descriptor) (draft : Draft) :
    holds (attachDescriptors builder item locales request descriptors draft) := by
  induction descriptors generalizing draft with
  | nil => exact binds.done _
  | cons descriptor rest ih => exact binds.bind (binds_attachDescriptor binds _ (resolves _) _) fun draft => ih draft

end

end Builder
end CatalogIndex
