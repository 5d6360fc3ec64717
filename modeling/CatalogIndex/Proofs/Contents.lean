import CatalogIndex.Proofs.Outcome
import Mathlib.Data.List.Dedup
/-!
The index of a list of items: their documents, entered in the order of the items under the ids of their documents.
It has one document for every item id that occurs, and a store to which the documents have been written is that
index.
-/
namespace CatalogIndex

namespace Table

variable {α : Type} {table : Table α} {key : String}

theorem mem_keys : key ∈ table.keys ↔ (table.find? key).isSome = true := by
  have listed (entries : List (String × α)) : key ∈ entries.map (·.1) ↔ (seek key entries).isSome = true := by
    induction entries with
    | nil => simp [seek]
    | cons entry rest ih =>
      by_cases same : key = entry.1
      · simp [seek, same]
      · simp [seek, same, ih]
  exact listed table.entries

theorem nodup_keys (table : Table α) : table.keys.Nodup := by
  unfold keys List.Nodup
  rw [List.pairwise_map]
  refine table.ascending.imp fun {left right} less same => ?_
  rw [same] at less
  exact String.lt_irrefl _ less

end Table

namespace Parties

variable {parties : Parties} {builder : Builder} {request : RequestContext} {items : List Item}

/-- Enters the document of an item under its id, in the place of an earlier one. An item without a document is
passed over. -/
def enter (parties : Parties) (builder : Builder) (request : RequestContext) (index : Table Document) (item : Item) :
    Table Document :=
  match parties.document builder request item with
  | .ok document => index.insert (Naming.documentId builder.nameSpace item.id) document
  | .error _ => index

def index (parties : Parties) (builder : Builder) (request : RequestContext) (items : List Item) : Table Document :=
  items.foldl (parties.enter builder request) .empty

theorem store_of_documents {documents : List Document} {before : Table Document}
    (built : items.mapM (parties.document builder request) = .ok documents) :
    Memory.store before documents = items.foldl (parties.enter builder request) before := by
  have each := forall₂_of_documents built
  clear built
  induction each generalizing before with
  | nil => rfl
  | @cons item document rest others first later ih =>
    have entered : Memory.enter before document = parties.enter builder request before item := by
      simp only [Memory.enter, enter, id_of_document first, first]
    rw [List.foldl_cons, ← entered]
    exact ih

theorem exists_documents (attached : ∀ item ∈ items, ∃ taken, parties.attachment builder item = .ok taken) :
    ∃ documents, items.mapM (parties.document builder request) = .ok documents := by
  induction items with
  | nil => exact ⟨[], rfl⟩
  | cons item rest ih =>
    obtain ⟨taken, first⟩ := attached item List.mem_cons_self
    obtain ⟨others, later⟩ := ih fun other member => attached other (List.mem_cons_of_mem _ member)
    obtain ⟨document, built⟩ : ∃ document, parties.document builder request item = .ok document :=
      exists_document first
    rw [List.mapM_cons, built, later]
    exact ⟨document :: others, rfl⟩

theorem documents_of_failure {before after : List Item} {item : Item} {error : ExtensionError}
    (attached : ∀ item ∈ before, ∃ taken, parties.attachment builder item = .ok taken)
    (failed : parties.attachment builder item = .error error) :
    (before ++ item :: after).mapM (parties.document builder request) = .error error := by
  obtain ⟨documents, built⟩ : ∃ documents, before.mapM (parties.document builder request) = .ok documents :=
    exists_documents attached
  have refused : parties.document builder request item = .error error := document_of_refused failed
  rw [mapM_append_ok built, List.mapM_cons, refused]
  rfl

theorem isSome_find?_enter (attached : ∀ item ∈ items, ∃ taken, parties.attachment builder item = .ok taken)
    (before : Table Document) (key : String) :
    ((items.foldl (parties.enter builder request) before).find? key).isSome = true ↔
      (before.find? key).isSome = true ∨ ∃ item ∈ items, Naming.documentId builder.nameSpace item.id = key := by
  induction items generalizing before with
  | nil => simp
  | cons item rest ih =>
    obtain ⟨taken, first⟩ := attached item List.mem_cons_self
    obtain ⟨document, built⟩ : ∃ document, parties.document builder request item = .ok document :=
      exists_document first
    have entered : parties.enter builder request before item =
        before.insert (Naming.documentId builder.nameSpace item.id) document := by
      unfold enter
      rw [built]
    rw [List.foldl_cons, entered, ih fun other member => attached other (List.mem_cons_of_mem _ member),
      Table.find?_insert]
    by_cases same : key = Naming.documentId builder.nameSpace item.id
    · simp [same]
    · have differs : Naming.documentId builder.nameSpace item.id ≠ key := fun equal => same equal.symm
      simp [same, differs]

theorem size_index (attached : ∀ item ∈ items, ∃ taken, parties.attachment builder item = .ok taken) :
    (parties.index builder request items).size = (items.map Item.id).dedup.length := by
  have ids : (parties.index builder request items).keys.Perm
      ((items.map Item.id).dedup.map (Naming.documentId builder.nameSpace)) := by
    refine (List.perm_ext_iff_of_nodup (Table.nodup_keys _) ?_).2 fun key => ?_
    · exact (List.nodup_dedup _).map fun left right same => Naming.documentId_injective same
    · rw [Table.mem_keys]
      unfold index
      rw [isSome_find?_enter attached]
      simp
  have length := ids.length_eq
  rw [List.length_map] at length
  rw [← length]
  exact (List.length_map _).symm

end Parties
end CatalogIndex
