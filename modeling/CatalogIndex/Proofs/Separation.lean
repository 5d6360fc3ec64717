import CatalogIndex.Proofs.Acceptance
import CatalogIndex.Proofs.Contributions
import CatalogIndex.Proofs.LastWriter
import Mathlib.Logic.Function.Basic
/-!
Identifiers that keep things apart. An id tells the namespace and the item, so a document that has been committed stays
under its id whatever is written of other namespaces and items; and the field for the position in a category is that of
no other category.
-/
namespace CatalogIndex

/-! ### What stands under an id -/

namespace Engine

def placed (back : Document → Except SearchError Document) (id : String) (documents : List Document)
    (before : Except SearchError (Option Document)) : Except SearchError (Option Document) :=
  documents.foldl (fun found document => if document.id? = some id then (back document).map some else found) before

/-- An engine that has one document under each id. -/
class Keyed (γ : Type) [Engine γ] where
  back : Document → Except SearchError Document
  /-- What the next commit will show under an id. -/
  awaited : γ → String → Except SearchError (Option Document)
  /-- Added documents wait, each to take the place of the one of its id. -/
  add {documents : List Document} (identified : ∀ document ∈ documents, document.Identified) (engine : γ) (id : String) :
    Engine.find (Engine.perform (.add documents) engine).2 id = Engine.find engine id ∧
      awaited (Engine.perform (.add documents) engine).2 id = placed back id documents (awaited engine id)
  commit (engine : γ) (id : String) :
    Engine.find (Engine.perform .commit engine).2 id = awaited engine id ∧
      awaited (Engine.perform .commit engine).2 id = awaited engine id
  rollback (engine : γ) (id : String) :
    Engine.find (Engine.perform .rollback engine).2 id = Engine.find engine id ∧
      awaited (Engine.perform .rollback engine).2 id = Engine.find engine id
  optimize (engine : γ) (id : String) :
    Engine.find (Engine.perform .optimize engine).2 id = Engine.find engine id ∧
      awaited (Engine.perform .optimize engine).2 id = awaited engine id

variable {back : Document → Except SearchError Document} {id : String} {documents : List Document}

theorem placed_of_same {found : Except SearchError (Option Document)}
    (same : ∀ document ∈ documents, document.id? = some id → (back document).map some = found) :
    placed back id documents found = found := by
  induction documents with
  | nil => rfl
  | cons first rest ih =>
    have head : (if first.id? = some id then (back first).map some else found) = found := by
      split
      · exact same first List.mem_cons_self ‹_›
      · rfl
    unfold placed at ih ⊢
    rw [List.foldl_cons, head]
    exact ih fun document member => same document (List.mem_cons_of_mem _ member)

theorem placed_of_mem {document : Document} (named : document.id? = some id) (member : document ∈ documents)
    (alone : ∀ other ∈ documents, other = document ∨ other.id? ≠ some id)
    (before : Except SearchError (Option Document)) : placed back id documents before = (back document).map some := by
  obtain ⟨front, rest, rfl⟩ := List.append_of_mem member
  unfold placed
  rw [List.foldl_append, List.foldl_cons, if_pos named]
  apply placed_of_same
  intro other among has
  rcases alone other (List.mem_append_right _ (List.mem_cons_of_mem _ among)) with rfl | differs
  · rfl
  · exact absurd has differs

end Engine

theorem Memory.find?_added (documents : List Document) (table : Table Document) (id : String) :
    (Except.ok (((documents.map .added).foldl Event.apply table).find? id) : Except SearchError (Option Document)) =
      Engine.placed .ok id documents (.ok (table.find? id)) := by
  induction documents generalizing table with
  | nil => rfl
  | cons document rest ih =>
    have first : (Event.apply table (.added document)).find? id =
        if document.id? = some id then some document else table.find? id := by
      cases named : document.id? with
      | none =>
        have kept : Event.apply table (.added document) = table := by simp only [Event.apply, Change.apply, named]
        rw [kept, if_neg (Option.some_ne_none id).symm]
      | some name =>
        have entered : Event.apply table (.added document) = table.insert name document := by
          simp only [Event.apply, Change.apply, named]
        rw [entered, Table.find?_insert]
        exact if_congr (by rw [Option.some.injEq, eq_comm]) rfl rfl
    rw [List.map_cons, List.foldl_cons, ih, first, apply_ite Except.ok]
    rfl

instance : Engine.Keyed Memory where
  back := .ok
  awaited memory id := .ok (memory.settled.find? id)
  add {documents} identified memory id := by
    refine ⟨rfl, ?_⟩
    have whole : documents.takeWhile (fun document => document.id?.isSome) = documents :=
      List.takeWhile_eq_self_iff.2 fun document member => (identified document member).id
    have events : (Operation.add documents).events = documents.map .added := by
      change (documents.takeWhile fun document => document.id?.isSome).map Event.added = _
      rw [whole]
    have waits := (@Memory.perform_waiting (.add documents) nofun nofun memory).2
    rw [← Memory.find?_added, ← events, ← waits]
    rfl
  commit _ _ := ⟨rfl, rfl⟩
  rollback _ _ := ⟨rfl, rfl⟩
  optimize _ _ := ⟨rfl, rfl⟩

namespace Segmented

theorem shown_added {documents : List Document} (identified : ∀ document ∈ documents, document.Identified)
    (layers : Layers) (id : String) :
    shown (((prepare documents).1.map .add).foldl Layers.apply layers).documents id =
      Engine.placed Stored.restored id documents (shown layers.documents id) := by
  induction documents generalizing layers with
  | nil => rfl
  | cons document rest ih =>
    obtain ⟨stored, stores⟩ := Stored.exists_ofDocument (identified document List.mem_cons_self)
    have prepared : (prepare (document :: rest)).1 = stored :: (prepare rest).1 := by
      rw [prepare, stores]
    have back : Stored.restored document = stored.toDocument := by
      unfold Stored.restored
      rw [stores]
      rfl
    have first : shown (layers.apply (.add stored)).documents id =
        if document.id? = some id then (Stored.restored document).map some else shown layers.documents id := by
      rw [Layers.documents_apply_add, shown_replace, Stored.id_of_ofDocument stores, back]
      exact if_congr (by rw [Option.some.injEq, eq_comm]) rfl rfl
    have later := ih (fun other member => identified other (List.mem_cons_of_mem _ member)) (layers.apply (.add stored))
    rw [prepared, List.map_cons, List.foldl_cons, later, first]
    rfl

theorem Layers.documents_foldl_congr {left right : Layers} (same : left.documents = right.documents)
    (changes : List Change) :
    (changes.foldl Layers.apply left).documents = (changes.foldl Layers.apply right).documents := by
  induction changes generalizing left right with
  | nil => exact same
  | cons change rest ih =>
    apply ih
    cases change with
    | add stored => rw [documents_apply_add, documents_apply_add, same]
    | clear =>
      change (left.retain _).documents = (right.retain _).documents
      rw [documents_retain, documents_retain, same]
    | remove query =>
      change (left.retain _).documents = (right.retain _).documents
      rw [documents_retain, documents_retain, same]

theorem find_commit (generation : Segmented) (id : String) :
    Engine.find (Engine.perform .commit generation).2 id =
      shown (generation.pending.foldl Layers.apply ⟨generation.segments, []⟩).documents id := by
  rw [← Layers.flatten_close]
  rfl

theorem documents_optimize (generation : Segmented) :
    Layers.documents ⟨(Engine.perform .optimize generation).2.segments, []⟩ =
        Layers.documents ⟨generation.segments, []⟩ ∧
      (Engine.perform .optimize generation).2.pending = generation.pending := by
  change Layers.documents ⟨Segmented.segments (if generation.segments.length ≤ 1 then generation
      else { generation with segments := [generation.segments.flatten] }), []⟩ = _ ∧
    Segmented.pending (if generation.segments.length ≤ 1 then generation
      else { generation with segments := [generation.segments.flatten] }) = _
  split
  · exact ⟨rfl, rfl⟩
  · refine ⟨?_, rfl⟩
    unfold Layers.documents
    rw [List.flatten_singleton]

theorem find_eq (generation : Segmented) (id : String) :
    Engine.find generation id = shown (Layers.documents ⟨generation.segments, []⟩) id := by
  unfold Layers.documents
  rw [List.append_nil]
  rfl

end Segmented

instance : Engine.Keyed Segmented where
  back := Stored.restored
  awaited generation id := Segmented.shown
    (generation.pending.foldl Segmented.Layers.apply ⟨generation.segments, []⟩).documents id
  add {documents} identified generation id := by
    refine ⟨rfl, ?_⟩
    have waits : (Engine.perform (.add documents) generation).2.pending =
        generation.pending ++ (Segmented.prepare documents).1.map .add := rfl
    have still : (Engine.perform (.add documents) generation).2.segments = generation.segments := rfl
    rw [waits, still, List.foldl_append]
    exact Segmented.shown_added identified _ id
  commit generation id := by
    refine ⟨Segmented.find_commit generation id, ?_⟩
    calc
      _ = Engine.find (Engine.perform .commit generation).2 id := (Segmented.find_eq _ id).symm
      _ = _ := Segmented.find_commit generation id
  rollback generation id := by
    refine ⟨rfl, ?_⟩
    rw [Segmented.find_eq]
    rfl
  optimize generation id := by
    obtain ⟨merged, waiting⟩ := Segmented.documents_optimize generation
    constructor
    · rw [Segmented.find_eq, Segmented.find_eq, merged]
    · rw [waiting, Segmented.Layers.documents_foldl_congr merged]

/-! ### Documents of other namespaces and items -/

theorem Naming.documentId_inj {nameSpace other : String} {itemId otherId : Int64} :
    documentId nameSpace itemId = documentId other otherId ↔ nameSpace = other ∧ itemId = otherId := by
  constructor
  · intro same
    obtain rfl := nameSpace_of_documentId same
    exact ⟨rfl, documentId_injective same⟩
  · rintro ⟨rfl, rfl⟩
    rfl

namespace Document

/-- A document that a builder for a namespace makes of an item, whatever is configured and whatever handlers
contribute. -/
def MadeFor (nameSpace : String) (itemId : Int64) (document : Document) : Prop :=
  ∃ (builder : Builder) (item : Item) (descriptors : List Descriptor) (locales : List Locale)
    (request : RequestContext) (replies : List Consulted),
    builder.nameSpace = nameSpace ∧ item.id = itemId ∧
      (builder.build item descriptors locales request).Path replies (.ok document)

def Apart (nameSpace : String) (itemId : Int64) (document : Document) : Prop :=
  ∃ other otherId, (other ≠ nameSpace ∨ otherId ≠ itemId) ∧ document.MadeFor other otherId

variable {nameSpace : String} {itemId : Int64} {document : Document}

theorem MadeFor.identifiedAs (made : document.MadeFor nameSpace itemId) :
    ∃ item : Item, item.id = itemId ∧ document.IdentifiedAs nameSpace item := by
  obtain ⟨builder, item, descriptors, locales, request, replies, rfl, rfl, path⟩ := made
  exact ⟨item, rfl, Builder.identifiedAs_of_path path⟩

theorem MadeFor.identified (made : document.MadeFor nameSpace itemId) : document.Identified := by
  obtain ⟨item, -, identified⟩ := made.identifiedAs
  exact identified.identified

theorem MadeFor.id (made : document.MadeFor nameSpace itemId) :
    document.id? = some (Naming.documentId nameSpace itemId) := by
  obtain ⟨item, rfl, identified⟩ := made.identifiedAs
  exact identified.id

theorem Apart.identified (apart : document.Apart nameSpace itemId) : document.Identified := by
  obtain ⟨other, otherId, -, made⟩ := apart
  exact made.identified

theorem Apart.id_ne (apart : document.Apart nameSpace itemId) :
    document.id? ≠ some (Naming.documentId nameSpace itemId) := by
  obtain ⟨other, otherId, differ, made⟩ := apart
  intro same
  obtain ⟨sameSpace, sameItem⟩ := Naming.documentId_inj.1 (Option.some.inj (made.id.symm.trans same))
  rcases differ with away | away
  · exact away sameSpace
  · exact away sameItem

end Document

/-- An operation that writes only documents of other namespaces or items, or that writes nothing. -/
inductive Operation.Beside (nameSpace : String) (itemId : Int64) : Operation → Prop where
  | add {documents : List Document} (apart : ∀ document ∈ documents, document.Apart nameSpace itemId) :
      Beside nameSpace itemId (.add documents)
  | commit : Beside nameSpace itemId .commit
  | rollback : Beside nameSpace itemId .rollback
  | optimize : Beside nameSpace itemId .optimize

namespace Engine

variable {γ : Type} [Engine γ]

theorem performAll_keeps {property : γ → Prop} {operations : List Operation}
    (step : ∀ operation ∈ operations, ∀ engine, property engine → property (Engine.perform operation engine).2)
    {engine : γ} (holds : property engine) : property (performAll operations engine).2 := by
  induction operations generalizing engine with
  | nil => exact holds
  | cons operation rest ih =>
    exact ih (fun other member => step other (List.mem_cons_of_mem _ member))
      (step operation List.mem_cons_self engine holds)

variable [Keyed γ] {nameSpace : String} {itemId : Int64} {operation : Operation} {engine : γ}
  {found : Except SearchError (Option Document)}

theorem awaited_beside (beside : operation.Beside nameSpace itemId) (keeps : operation ≠ .rollback) (engine : γ) :
    Keyed.awaited (Engine.perform operation engine).2 (Naming.documentId nameSpace itemId) =
      Keyed.awaited engine (Naming.documentId nameSpace itemId) := by
  cases beside with
  | @add documents apart =>
    rw [(Keyed.add (fun document member => (apart document member).identified) engine _).2]
    exact placed_of_same fun document member same => absurd same (apart document member).id_ne
  | commit => exact (Keyed.commit engine _).2
  | rollback => exact absurd rfl keeps
  | optimize => exact (Keyed.optimize engine _).2

structure Stands (id : String) (found : Except SearchError (Option Document)) (engine : γ) : Prop where
  now : Engine.find engine id = found
  next : Keyed.awaited engine id = found

/-- What is committed under an id and will be found there after the next commit too stays so, even when what waits
beside it is dropped. -/
theorem Stands.beside (stands : Stands (Naming.documentId nameSpace itemId) found engine)
    (beside : operation.Beside nameSpace itemId) :
    Stands (Naming.documentId nameSpace itemId) found (Engine.perform operation engine).2 := by
  cases beside with
  | @add documents apart =>
    have identified : ∀ document ∈ documents, document.Identified :=
      fun document member => (apart document member).identified
    refine ⟨(Keyed.add identified engine _).1.trans stands.now, ?_⟩
    exact (awaited_beside (.add apart) nofun engine).trans stands.next
  | commit =>
    obtain ⟨now, next⟩ := Keyed.commit engine (Naming.documentId nameSpace itemId)
    exact ⟨now.trans stands.next, next.trans stands.next⟩
  | rollback =>
    -- What is awaited falls back to what is found, which is why both are carried along.
    obtain ⟨now, next⟩ := Keyed.rollback engine (Naming.documentId nameSpace itemId)
    exact ⟨now.trans stands.now, next.trans stands.now⟩
  | optimize =>
    obtain ⟨now, next⟩ := Keyed.optimize engine (Naming.documentId nameSpace itemId)
    exact ⟨now.trans stands.now, next.trans stands.next⟩

variable {document : Document} {page : List Document} {waiting later : List Operation}

theorem awaited_page (made : document.MadeFor nameSpace itemId) (member : document ∈ page)
    (alone : ∀ other ∈ page, other = document ∨ other.Apart nameSpace itemId) (engine : γ) :
    Keyed.awaited (Engine.perform (.add page) engine).2 (Naming.documentId nameSpace itemId) =
      (Keyed.back γ document).map some := by
  have identified : ∀ other ∈ page, other.Identified := by
    intro other among
    rcases alone other among with rfl | apart
    · exact made.identified
    · exact apart.identified
  have others : ∀ other ∈ page, other = document ∨ other.id? ≠ some (Naming.documentId nameSpace itemId) :=
    fun other among => (alone other among).imp_right Document.Apart.id_ne
  rw [(Keyed.add identified engine _).2]
  exact placed_of_mem made.id member others _

/-- A document that is added with a page and committed is found from then on, whatever is written before the commit and
after it of other namespaces and items. -/
theorem find_kept (made : document.MadeFor nameSpace itemId) (member : document ∈ page)
    (alone : ∀ other ∈ page, other = document ∨ other.Apart nameSpace itemId)
    (before : ∀ operation ∈ waiting, operation.Beside nameSpace itemId ∧ operation ≠ .rollback)
    (after : ∀ operation ∈ later, operation.Beside nameSpace itemId) (engine : γ) :
    Engine.find (performAll (.add page :: (waiting ++ .commit :: later)) engine).2
        (Naming.documentId nameSpace itemId) = (Keyed.back γ document).map some := by
  let written := (performAll waiting (Engine.perform (.add page) engine).2).2
  have waits : Keyed.awaited written (Naming.documentId nameSpace itemId) = (Keyed.back γ document).map some :=
    performAll_keeps (fun operation among engine waits =>
      (awaited_beside (before operation among).1 (before operation among).2 engine).trans waits)
      (awaited_page made member alone engine)
  have committed : Stands (Naming.documentId nameSpace itemId) ((Keyed.back γ document).map some)
      (Engine.perform .commit written).2 := by
    obtain ⟨now, next⟩ := Keyed.commit written (Naming.documentId nameSpace itemId)
    exact ⟨now.trans waits, next.trans waits⟩
  have stands := performAll_keeps (fun operation among _ stands =>
    Stands.beside stands (after operation among)) committed
  change Engine.find (performAll (waiting ++ .commit :: later) (Engine.perform (.add page) engine).2).2 _ = _
  rw [performAll_append]
  exact stands.now

end Engine

/-! ### Fields of categories -/

namespace Naming

theorem categorySortField_injective : Function.Injective categorySortField := by
  intro left right same
  have middle : "category_" ++ Numeral.ofInt left.toInt = "category_" ++ Numeral.ofInt right.toInt :=
    (String.append_left_inj _).1 same
  exact Int64.toInt_inj.1 (Numeral.ofInt_injective ((String.append_right_inj _).1 middle))

theorem mem_categorySortField (categoryId : Int64) : '_' ∈ (categorySortField categoryId).toList := by
  have front : '_' ∈ "category_".toList := by decide
  unfold categorySortField
  rw [String.toList_append, String.toList_append]
  exact List.mem_append_left _ (List.mem_append_left _ front)

theorem categorySortField_ne_categoryField (categoryId : Int64) : categorySortField categoryId ≠ categoryField := by
  intro same
  have mark := mem_categorySortField categoryId
  rw [same] at mark
  exact absurd mark (by decide)

theorem categorySortField_ne_explicitCategoryField (categoryId : Int64) :
    categorySortField categoryId ≠ explicitCategoryField := by
  intro same
  have mark := mem_categorySortField categoryId
  rw [same] at mark
  exact absurd mark (by decide)

end Naming

theorem Document.under_append (name : String) (first second : List (String × List Value)) :
    under name (first ++ second) = under name first ++ under name second := by
  unfold under
  rw [List.filter_append, List.map_append]

theorem Builder.under_categorySortField (item : Item) (categoryId : Int64) :
    Document.under (Naming.categorySortField categoryId) (categoryFields item) =
      (item.categories.filter fun category => category.id = categoryId).map fun category =>
        [.integer (sortPosition category item.id)] := by
  have notExplicit := (Naming.categorySortField_ne_explicitCategoryField categoryId).symm
  have notCategory := (Naming.categorySortField_ne_categoryField categoryId).symm
  have closure : Document.under (Naming.categorySortField categoryId)
      (item.categoryClosure.map fun id => (Naming.categoryField, [.integer id])) = [] := by
    simp [Document.under, notCategory]
  unfold categoryFields
  rw [Document.under_append, closure, List.append_nil]
  induction item.categories with
  | nil => rfl
  | cons category rest ih =>
    rw [List.flatMap_cons, Document.under_append, ih, List.filter_cons]
    by_cases same : category.id = categoryId
    · simp [Document.under, notExplicit, same]
    · have differ : Naming.categorySortField category.id ≠ Naming.categorySortField categoryId := fun fields =>
        same (Naming.categorySortField_injective fields)
      simp [Document.under, notExplicit, same, differ]

/-- An id tells its namespace and its item. So once a document has been added with its page and committed, readers find
it in both kinds of generation whatever is written of other namespaces and items. The fields for positions tell their
categories and are no other fields of categories, so that each holds the positions in its own category. -/
theorem Naming.identifiers_injective :
    Function.Injective2 documentId ∧
      (∀ (nameSpace : String) (itemId : Int64) (document : Document) (page : List Document)
        (waiting later : List Operation), document.MadeFor nameSpace itemId → document ∈ page →
        (∀ other ∈ page, other = document ∨ other.Apart nameSpace itemId) →
        (∀ operation ∈ waiting, operation.Beside nameSpace itemId ∧ operation ≠ .rollback) →
        (∀ operation ∈ later, operation.Beside nameSpace itemId) →
        (∀ memory : Memory,
          Engine.find (Engine.performAll (.add page :: (waiting ++ .commit :: later)) memory).2
            (documentId nameSpace itemId) = .ok (some document)) ∧
        ∀ generation : Segmented,
          Engine.find (Engine.performAll (.add page :: (waiting ++ .commit :: later)) generation).2
            (documentId nameSpace itemId) = (Stored.restored document).map some) ∧
      Function.Injective categorySortField ∧
      ∀ categoryId : Int64, categorySortField categoryId ≠ categoryField ∧
        categorySortField categoryId ≠ explicitCategoryField ∧
        ∀ item : Item, Document.under (categorySortField categoryId) (Builder.categoryFields item) =
          (item.categories.filter fun category => category.id = categoryId).map fun category =>
            [.integer (Builder.sortPosition category item.id)] := by
  refine ⟨fun nameSpace other itemId otherId same => ?_, ?_, categorySortField_injective, fun categoryId => ?_⟩
  · exact documentId_inj.1 same
  · intro nameSpace itemId document page waiting later made member alone before after
    exact ⟨fun memory => Engine.find_kept made member alone before after memory,
      fun generation => Engine.find_kept made member alone before after generation⟩
  · exact ⟨categorySortField_ne_categoryField categoryId, categorySortField_ne_explicitCategoryField categoryId,
      fun item => Builder.under_categorySortField item categoryId⟩

namespace Trial

def plain (nameSpace : String) (itemId : Int64) : Document :=
  Builder.identity ⟨nameSpace, [], .standard⟩ (.new itemId)

theorem madeFor_plain (nameSpace : String) (itemId : Int64) : (plain nameSpace itemId).MadeFor nameSpace itemId :=
  ⟨⟨nameSpace, [], .standard⟩, .new itemId, [], [], .empty, [], rfl, rfl, .done _⟩

theorem apart_plain {nameSpace : String} {itemId : Int64} (differ : nameSpace ≠ "shop" ∨ itemId ≠ 1) :
    (plain nameSpace itemId).Apart "shop" 1 := ⟨nameSpace, itemId, differ, madeFor_plain nameSpace itemId⟩

def stalls : List Document := [plain "shop" (-1), plain "shop" 1, plain "shop_1" 1]

def beforehand : List Operation := [.add [plain "shop" 11, plain "" 1], .optimize]
def afterwards : List Operation := [.add [plain "shop_1" (-1)], .rollback, .add [plain "shop_" 1], .commit]

end Trial

theorem Naming.identifiers_injective_trial :
    documentId "shop_1" 1 ≠ documentId "shop" 11 ∧
      Engine.find (Engine.performAll (.add Trial.stalls :: (Trial.beforehand ++ .commit :: Trial.afterwards))
        Memory.empty).2 (documentId "shop" 1) = .ok (some (Trial.plain "shop" 1)) ∧
      Engine.find (Engine.performAll (.add Trial.stalls :: (Trial.beforehand ++ .commit :: Trial.afterwards))
        Segmented.empty).2 (documentId "shop" 1) = (Stored.restored (Trial.plain "shop" 1)).map some ∧
      categorySortField 12 ≠ categorySortField (-12) := by
  obtain ⟨ids, kept, fields, -⟩ := identifiers_injective
  have alone : ∀ other ∈ Trial.stalls, other = Trial.plain "shop" 1 ∨ other.Apart "shop" 1 := by
    simp only [Trial.stalls, List.forall_mem_cons]
    exact ⟨.inr (Trial.apart_plain (.inr (by decide))), .inl trivial, .inr (Trial.apart_plain (.inl (by decide))), nofun⟩
  have before : ∀ operation ∈ Trial.beforehand, operation.Beside "shop" 1 ∧ operation ≠ .rollback := by
    have apart : ∀ document ∈ [Trial.plain "shop" 11, Trial.plain "" 1], document.Apart "shop" 1 := by
      simp only [List.forall_mem_cons]
      exact ⟨Trial.apart_plain (.inr (by decide)), Trial.apart_plain (.inl (by decide)), nofun⟩
    simp only [Trial.beforehand, List.forall_mem_cons]
    exact ⟨⟨.add apart, nofun⟩, ⟨.optimize, nofun⟩, nofun⟩
  have after : ∀ operation ∈ Trial.afterwards, operation.Beside "shop" 1 := by
    have single {nameSpace : String} {itemId : Int64} (differ : nameSpace ≠ "shop" ∨ itemId ≠ 1) :
        Operation.Beside "shop" 1 (.add [Trial.plain nameSpace itemId]) :=
      .add (List.forall_mem_singleton.2 (Trial.apart_plain differ))
    simp only [Trial.afterwards, List.forall_mem_cons]
    exact ⟨single (.inl (by decide)), .rollback, single (.inl (by decide)), .commit, nofun⟩
  obtain ⟨inMemory, onDisk⟩ := kept "shop" 1 (Trial.plain "shop" 1) Trial.stalls Trial.beforehand Trial.afterwards
    (Trial.madeFor_plain "shop" 1) (by simp [Trial.stalls]) alone before after
  refine ⟨fun same => ?_, inMemory Memory.empty, onDisk Segmented.empty, fun same => ?_⟩
  · exact absurd (ids same).1 (by decide)
  · exact absurd (fields same) (by decide)

end CatalogIndex
