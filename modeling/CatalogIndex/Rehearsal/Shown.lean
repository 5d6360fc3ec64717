import CatalogIndex.Generation.Pair
import CatalogIndex.Rebuild.Progress
import CatalogIndex.Rehearsal.Recorder
import CatalogIndex.Rehearsal.Tagged
import CatalogIndex.Request
/-!
What rehearsals show of the records of the library.
-/
namespace CatalogIndex.Shown

def descriptor (descriptor : Descriptor) : Json :=
  .object [("property_name", .text descriptor.propertyName), ("abbreviation", .text descriptor.abbreviation),
    ("searchable", .bool descriptor.searchable),
    ("types", .texts (descriptor.searchableTypes.map FieldType.name)),
    ("facet", Json.orNull (fun fieldType => .text fieldType.name) descriptor.facetType),
    ("qualified", .text descriptor.qualifiedName)]

def locale (locale : Locale) : Json :=
  .object [("code", .text locale.code), ("friendly_name", Json.orNull .text locale.friendlyName),
    ("is_default", .bool locale.isDefault)]

def context (context : RequestContext) : Json :=
  .object [("locale", Json.orNull locale context.locale), ("currency", Json.orNull .text context.currency),
    ("pricing", .object (context.pricing.entries.map fun (key, value) => (key, .text value))),
    ("active_date", Json.orNull Tagged.ofInstant context.activeDate)]

def mappedList (settings : MappedList) : Json :=
  .texts [settings.listProperty, settings.keyMember, settings.valueMember]

def settings (settings : Settings) : Json :=
  .object [("page_size", .ofNat settings.pageSize.toNat), ("namespace", .text settings.nameSpace),
    ("mode", .text settings.mode.name), ("index_root", .text settings.indexRoot),
    ("memory_mb", .ofNat settings.writerMemory.toNat), ("mapped_list", mappedList settings.mappedList),
    ("primary", .text settings.primaryPath), ("reindex", .text settings.reindexPath)]

/-- The progress of a rebuild; the reading of a clock is not told apart from others. -/
def progress (usesClock : Bool) (progress : Progress) : Json :=
  .object [("as_of", if usesClock then .text "now" else Json.orNull Tagged.ofInstant progress.asOf),
    ("total_items", .ofNat progress.totalItems.toNat), ("total_pages", .ofNat progress.totalPages.toNat),
    ("pages", .ofNat progress.pages), ("documents", .ofNat progress.documents),
    ("completed", .bool progress.completed)]

def pair {γ : Type} [Engine γ] (pair : Pair γ) : Json :=
  .object [("active", .text pair.active.name), ("reindex", .text pair.reindex.name),
    ("shared", .bool pair.isShared), ("active_docs", .ofNat (Engine.count pair.active.engine)),
    ("reindex_docs", .ofNat (Engine.count pair.reindex.engine))]

def events (recorder : Recorder) : Json := .texts (recorder.events.map TransactionEvent.label)

end CatalogIndex.Shown
