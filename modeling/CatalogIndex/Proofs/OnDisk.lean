import CatalogIndex.Generation.Segmented
import CatalogIndex.Proofs.Contents
/-!
A generation on disk against one in memory. The first keeps stored documents in segments, the second a table of
documents by id. What relates them is that the stored documents have different ids and that each is the stored form
of the document under its id. Every operation that both understand gets the same reply from both and keeps them
related.
-/
namespace CatalogIndex

structure Document.Identified (document : Document) : Prop where
  id : document.id?.isSome = true
  nameSpace : ((document.first? namespaceField).bind Value.asText).isSome = true
  itemId : ((document.first? itemIdField).bind Value.asInteger).isSome = true

namespace Stored

variable {document : Document} {stored : Stored}

def restored (document : Document) : Except SearchError Document := ofDocument document >>= toDocument

theorem exists_ofDocument (identified : document.Identified) : ∃ stored, ofDocument document = .ok stored := by
  obtain ⟨id, hasId⟩ := Option.isSome_iff_exists.1 identified.id
  obtain ⟨nameSpace, hasNameSpace⟩ := Option.isSome_iff_exists.1 identified.nameSpace
  obtain ⟨itemId, hasItemId⟩ := Option.isSome_iff_exists.1 identified.itemId
  unfold ofDocument
  simp only [hasId, hasNameSpace, hasItemId]
  exact ⟨_, rfl⟩

theorem id_of_ofDocument (stores : ofDocument document = .ok stored) : document.id? = some stored.id := by
  unfold ofDocument at stores
  split at stores
  · cases stores
  · split at stores
    · cases stores
    · split at stores
      · cases stores
      · cases stores
        assumption

theorem ofDocument_of_missing (missing : document.id? = none) : ofDocument document = .error Memory.missingId := by
  unfold ofDocument
  rw [missing]
  rfl

end Stored

/-! ### Stored documents and documents by id -/

structure Mirrors (documents : List Stored) (table : Table Document) : Prop where
  distinct : (documents.map Stored.id).Nodup
  same (id : String) :
    (documents.find? fun stored => stored.id == id).map Except.ok = (table.find? id).map Stored.ofDocument

namespace Mirrors

variable {documents : List Stored} {table : Table Document} {document : Document} {stored : Stored} {id : String}

theorem empty : Mirrors [] .empty := ⟨.nil, fun _ => rfl⟩

theorem find?_without (documents : List Stored) (gone id : String) :
    ((documents.filter fun other => other.id != gone).find? fun other => other.id == id) =
      if id = gone then none else documents.find? fun other => other.id == id := by
  induction documents with
  | nil => simp
  | cons first rest ih =>
    by_cases out : first.id = gone
    · by_cases hit : id = gone
      · simp_all
      · simp_all [Ne.symm hit]
    · by_cases found : first.id = id
      · simp_all
      · simp_all

theorem replace (mirrors : Mirrors documents table) (stores : Stored.ofDocument document = .ok stored) :
    Mirrors (documents.filter (fun other => other.id != stored.id) ++ [stored]) (table.insert stored.id document) where
  distinct := by
    rw [List.map_append, List.nodup_append]
    refine ⟨mirrors.distinct.sublist (List.filter_sublist.map _), List.nodup_singleton _, ?_⟩
    intro left member right last
    obtain ⟨other, kept, rfl⟩ := List.mem_map.1 member
    obtain rfl := List.mem_singleton.1 last
    simpa using (List.mem_filter.1 kept).2
  same id := by
    rw [List.find?_append, find?_without, Table.find?_insert]
    by_cases hit : id = stored.id
    · simp [hit, stores]
    · have missed : ([stored].find? fun other => other.id == id) = none := by
        simp [Ne.symm hit]
      rw [missed, if_neg hit, if_neg hit, Option.or_none]
      exact mirrors.same id

theorem find?_eq_none (mirrors : Mirrors documents table) (absent : table.find? id = none) :
    (documents.find? fun stored => stored.id == id) = none := by
  have same := mirrors.same id
  rw [absent] at same
  exact Option.map_eq_none_iff.1 same

theorem find?_eq_some (mirrors : Mirrors documents table) (present : table.find? id = some document) :
    ∃ stored, (documents.find? fun stored => stored.id == id) = some stored ∧
      Stored.ofDocument document = .ok stored := by
  have same := mirrors.same id
  rw [present] at same
  obtain ⟨stored, found, stores⟩ := Option.map_eq_some_iff.1 same
  exact ⟨stored, found, stores.symm⟩

theorem length_eq (mirrors : Mirrors documents table) : documents.length = table.size := by
  have ids : (documents.map Stored.id).Perm table.keys := by
    refine (List.perm_ext_iff_of_nodup mirrors.distinct (Table.nodup_keys _)).2 fun id => ?_
    have found := congrArg Option.isSome (mirrors.same id)
    rw [Option.isSome_map, Option.isSome_map] at found
    rw [Table.mem_keys, ← found, List.find?_isSome]
    simp
  have lengths := ids.length_eq
  rw [List.length_map] at lengths
  rw [lengths]
  exact List.length_map _

end Mirrors

/-! ### Changes that wait -/

namespace Segmented

inductive Waits : Change → CatalogIndex.Change → Prop where
  | add {stored : Stored} {document : Document} (stores : Stored.ofDocument document = .ok stored) :
      Waits (.add stored) (.add document)
  | clear : Waits .clear .clear

def Layers.documents (layers : Layers) : List Stored := layers.segments.flatten ++ layers.added

namespace Layers

variable {layers : Layers} {table : Table Document}

theorem documents_retain (layers : Layers) (test : Stored → Bool) :
    (layers.retain test).documents = layers.documents.filter test := by
  unfold documents retain
  rw [List.filter_append, List.filter_flatten]

/-- A commit moves documents but neither adds nor drops any. -/
theorem flatten_close (layers : Layers) : layers.close.flatten = layers.documents := by
  unfold close documents
  rw [List.flatten_filter_not_isEmpty, List.flatten_append, List.flatten_singleton]

theorem documents_apply_add (layers : Layers) (stored : Stored) : (layers.apply (.add stored)).documents =
    layers.documents.filter (fun other => other.id != stored.id) ++ [stored] := by
  rw [← documents_retain]
  exact (List.append_assoc ..).symm

theorem mirrors_apply {change : Change} {other : CatalogIndex.Change} (waits : Waits change other)
    (mirrors : Mirrors layers.documents table) : Mirrors (layers.apply change).documents (other.apply table) := by
  cases waits with
  | @add stored document stores =>
    have entered : (CatalogIndex.Change.add document).apply table = table.insert stored.id document := by
      simp only [CatalogIndex.Change.apply, Stored.id_of_ofDocument stores]
    rw [documents_apply_add, entered]
    exact mirrors.replace stores
  | clear =>
    have nothing : (layers.apply .clear).documents = [] := by
      change (layers.retain _).documents = []
      rw [documents_retain, List.filter_false]
    rw [nothing]
    exact .empty

theorem mirrors_foldl {changes : List Change} {others : List CatalogIndex.Change}
    (waiting : List.Forall₂ Waits changes others) (mirrors : Mirrors layers.documents table) :
    Mirrors (changes.foldl Layers.apply layers).documents (others.foldl CatalogIndex.Change.apply table) := by
  induction waiting generalizing layers table with
  | nil => exact mirrors
  | cons waits _ ih => exact ih (mirrors_apply waits mirrors)

end Layers

/-! ### Operations -/

/-- Operations that mean the same to both generations: batches of documents that are identified or have no id, and
of the removals the one of everything. -/
def Shared : Operation → Prop
  | .add documents => ∀ document ∈ documents, document.Identified ∨ document.id? = none
  | .delete query => Blank.trimText query = allDocuments
  | .commit | .rollback | .optimize => True

structure Refines (generation : Segmented) (memory : Memory) : Prop where
  mirrors : Mirrors generation.documents memory.committed
  waiting : List.Forall₂ Waits generation.pending memory.pending

theorem prepare_of_shared {documents : List Document}
    (shared : ∀ document ∈ documents, document.Identified ∨ document.id? = none) :
    List.Forall₂ Waits ((prepare documents).1.map .add) ((Memory.acceptable documents).1.map .add) ∧
      (prepare documents).2 = if (Memory.acceptable documents).2 then .error Memory.missingId else .ok () := by
  induction documents with
  | nil => exact ⟨.nil, rfl⟩
  | cons document rest ih =>
    obtain ⟨waiting, outcome⟩ := ih fun other member => shared other (List.mem_cons_of_mem _ member)
    unfold prepare
    rcases shared document List.mem_cons_self with identified | missing
    · obtain ⟨stored, stores⟩ := Stored.exists_ofDocument identified
      have accepted : Memory.acceptable (document :: rest) =
          (document :: (Memory.acceptable rest).1, (Memory.acceptable rest).2) := by
        simp [Memory.acceptable, identified.id]
      rw [stores, accepted]
      exact ⟨.cons (.add stores) waiting, outcome⟩
    · have refused : Memory.acceptable (document :: rest) = ([], true) := by
        simp [Memory.acceptable, missing]
      rw [Stored.ofDocument_of_missing missing, refused]
      exact ⟨.nil, rfl⟩

/-- A shared operation gets the same reply from both generations and keeps them where they stand together. -/
theorem Refines.perform {generation : Segmented} {memory : Memory} {operation : Operation}
    (refines : Refines generation memory) (shared : Shared operation) :
    (Engine.perform operation generation).1 = (Engine.perform operation memory).1 ∧
      Refines (Engine.perform operation generation).2 (Engine.perform operation memory).2 := by
  cases operation with
  | add documents =>
    obtain ⟨waiting, outcome⟩ := prepare_of_shared shared
    exact ⟨outcome, refines.mirrors, List.rel_append refines.waiting waiting⟩
  | commit =>
    have mirrors : Mirrors (Layers.documents ⟨generation.segments, []⟩) memory.committed := by
      unfold Layers.documents
      rw [List.append_nil]
      exact refines.mirrors
    have settled := Layers.mirrors_foldl refines.waiting mirrors
    rw [← Layers.flatten_close] at settled
    exact ⟨rfl, settled, .nil⟩
  | rollback => exact ⟨rfl, refines.mirrors, .nil⟩
  | optimize =>
    refine ⟨rfl, ?_⟩
    change Refines (if generation.segments.length ≤ 1 then generation
      else { generation with segments := [generation.segments.flatten] }) _
    split
    · exact ⟨refines.mirrors, refines.waiting⟩
    · refine ⟨?_, refines.waiting⟩
      have merged : Segmented.documents { generation with segments := [generation.segments.flatten] } =
          generation.documents := List.flatten_singleton
      rw [merged]
      exact refines.mirrors
  | delete query =>
    have everything : Blank.trimText query = allDocuments := shared
    have onDisk : Segmented.changeOf query = .ok .clear := if_pos everything
    have inMemory : CatalogIndex.Change.ofQuery? query = some .clear := if_pos everything
    change (Segmented.perform _ _).1 = (Memory.perform _ _).1 ∧
      Refines (Segmented.perform _ _).2 (Memory.perform _ _).2
    simp only [Segmented.perform, Memory.perform, onDisk, inMemory, true_and]
    exact ⟨refines.mirrors, List.rel_append refines.waiting (.cons .clear .nil)⟩

end Segmented

def Engine.performAll {γ : Type} [Engine γ] : List Operation → γ → List (Except SearchError Unit) × γ
  | [], engine => ([], engine)
  | operation :: rest, engine =>
    let (reply, engine) := Engine.perform operation engine
    let (replies, engine) := performAll rest engine
    (reply :: replies, engine)

namespace Segmented

variable {generation : Segmented} {memory : Memory} {operations : List Operation}

theorem Refines.find (refines : Refines generation memory) (id : String) :
    Engine.find generation id = (memory.committed.find? id).mapM Stored.restored := by
  change Segmented.find generation id = _
  unfold Segmented.find
  cases present : memory.committed.find? id with
  | none =>
    rw [refines.mirrors.find?_eq_none present]
    rfl
  | some document =>
    obtain ⟨stored, found, stores⟩ := refines.mirrors.find?_eq_some present
    have back : Stored.restored document = stored.toDocument := by
      unfold Stored.restored
      rw [stores]
      rfl
    rw [found, Option.mapM_some, back]
    rfl

theorem Refines.performAll (refines : Refines generation memory) (shared : ∀ operation ∈ operations, Shared operation) :
    (Engine.performAll operations generation).1 = (Engine.performAll operations memory).1 ∧
      Refines (Engine.performAll operations generation).2 (Engine.performAll operations memory).2 := by
  induction operations generalizing generation memory with
  | nil => exact ⟨rfl, refines⟩
  | cons operation rest ih =>
    obtain ⟨reply, next⟩ := refines.perform (shared operation List.mem_cons_self)
    obtain ⟨replies, last⟩ := ih next fun other member => shared other (List.mem_cons_of_mem _ member)
    exact ⟨congrArg₂ List.cons reply replies, last⟩

end Segmented

namespace Trial

def sauce : Document :=
  ((Document.empty.addField Document.namespaceField (.text "catalog")).addField Document.idField
    (.text "catalog_1")).addField Document.itemIdField (.integer 1)

def operations : List Operation :=
  [.add [sauce, sauce, .empty], .commit, .optimize, .delete " *:* ", .rollback, .commit]

end Trial

namespace Segmented

end Segmented
end CatalogIndex
