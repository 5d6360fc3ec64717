import CatalogIndex.Proofs.Endings
import CatalogIndex.Proofs.Faultless
import CatalogIndex.Proofs.FirstFailure
import CatalogIndex.Proofs.Identity
import CatalogIndex.Proofs.OnDisk
/-!
Built documents are never refused for what they are. A document gets its identity before anything else and only
grows from then on, so it always has what generations ask of a document, is found under its id, and no rebuild
ends with an invalid document.
-/
namespace CatalogIndex

/-- A document that has in front, in each field of its identity, what it has as the document of an item. -/
structure Document.IdentifiedAs (nameSpace : String) (item : Item) (document : Document) : Prop where
  firstNameSpace : document.first? namespaceField = some (.text nameSpace)
  firstId : document.first? idField = some (.text (Naming.documentId nameSpace item.id))
  firstItemId : document.first? itemIdField = some (.integer item.id)

namespace Document.IdentifiedAs

variable {nameSpace : String} {item : Item} {document : Document}

theorem id (identified : document.IdentifiedAs nameSpace item) :
    document.id? = some (Naming.documentId nameSpace item.id) := by
  unfold id?
  rw [identified.firstId]
  rfl

theorem identified (identified : document.IdentifiedAs nameSpace item) : document.Identified := by
  refine ⟨?_, ?_, ?_⟩
  · rw [identified.id]
    rfl
  · rw [identified.firstNameSpace]
    rfl
  · rw [identified.firstItemId]
    rfl

theorem ofDocument (identified : document.IdentifiedAs nameSpace item) :
    Stored.ofDocument document =
      .ok ⟨nameSpace, Naming.documentId nameSpace item.id, item.id, Stored.hold document.toJson.reread⟩ := by
  unfold Stored.ofDocument
  rw [identified.id, identified.firstNameSpace, identified.firstItemId]
  rfl

end Document.IdentifiedAs

namespace Builder

variable {builder : Builder} {item : Item} {descriptors : List Descriptor} {locales : List Locale}
  {request : RequestContext}

theorem identifiedAs_identity : (builder.identity item).IdentifiedAs builder.nameSpace item := by
  refine ⟨Document.starts_addValues (Document.starts_addValues rfl _ _) _ _, starts_identity, ?_⟩
  unfold identity Document.first? Document.addField
  rw [Document.values_addValues, if_pos rfl, Document.values_addValues, if_neg (by decide),
    Document.values_addValues, if_neg (by decide)]
  rfl

theorem identifiedAs_of_path {replies : List Consulted} {document : Document}
    (path : (builder.build item descriptors locales request).Path replies (.ok document)) :
    document.IdentifiedAs builder.nameSpace item where
  firstNameSpace := ends_build_of_starts identifiedAs_identity.firstNameSpace _ _ path document rfl
  firstId := ends_build_of_starts identifiedAs_identity.firstId _ _ path document rfl
  firstItemId := ends_build_of_starts identifiedAs_identity.firstItemId _ _ path document rfl

theorem identifiedAs_of_path_buildAll {items : List Item} {replies : List Consulted} {documents : List Document}
    (path : (builder.buildAll items descriptors locales request).Path replies (.ok documents)) :
    ∀ document ∈ documents, ∃ item ∈ items, document.IdentifiedAs builder.nameSpace item := by
  induction items generalizing replies documents with
  | nil =>
    obtain ⟨-, same⟩ := Dialogue.path_done.1 path
    cases same
    exact nofun
  | cons item rest ih =>
    obtain ⟨first, before, after, built, second, rfl⟩ := Dialogue.path_bind.1 path
    cases first with
    | error error =>
      obtain ⟨-, same⟩ := Dialogue.path_done.1 second
      cases same
    | ok document =>
      obtain ⟨others, middle, last, later, done, rfl⟩ := Dialogue.path_bind.1 second
      obtain ⟨rfl, same⟩ := Dialogue.path_done.1 done
      cases others with
      | error error => cases same
      | ok others =>
        cases same
        refine List.forall_mem_cons.2 ⟨⟨item, List.mem_cons_self, identifiedAs_of_path built⟩, ?_⟩
        intro other member
        obtain ⟨source, inRest, identified⟩ := ih later other member
        exact ⟨source, List.mem_cons_of_mem _ inRest, identified⟩

end Builder

/-! ### Finding a document under its id -/

/-- What an engine makes of a document: it accepts it, and after a commit something is found under one key that
comes from the document, while every other key finds what it would have found without it. -/
structure Engine.Files (γ : Type) [Engine γ] (document : Document) (key : String) (shown : Except SearchError Document) :
    Prop where
  accepted (engine : γ) : (Engine.perform (.add [document]) engine).1 = .ok ()
  found (engine : γ) (id : String) : Engine.find (performAll [.add [document], .commit] engine).2 id =
    if id = key then shown.map some else Engine.find (performAll [.commit] engine).2 id

theorem Memory.files {document : Document} {key : String} (named : document.id? = some key) :
    Engine.Files Memory document key (.ok document) := by
  have accepted : Memory.acceptable [document] = ([document], false) := by
    simp [Memory.acceptable, named]
  have performed (memory : Memory) : Engine.perform (.add [document]) memory =
      (.ok (), { memory with pending := memory.pending ++ [.add document] }) := by
    change Memory.perform (.add [document]) memory = _
    unfold Memory.perform
    simp only [accepted, Bool.false_eq_true, if_false, List.map_cons, List.map_nil]
  refine ⟨fun memory => by rw [performed], fun memory id => ?_⟩
  have settled : Memory.settled { memory with pending := memory.pending ++ [.add document] } =
      memory.settled.insert key document := by
    unfold Memory.settled
    rw [List.foldl_append]
    simp only [List.foldl_cons, List.foldl_nil, Change.apply, named]
  have after : Engine.find (Engine.performAll [.add [document], .commit] memory).2 id =
      .ok ((Memory.settled { memory with pending := memory.pending ++ [.add document] }).find? id) := by
    unfold Engine.performAll
    rw [performed]
    rfl
  rw [after, settled, Table.find?_insert]
  by_cases hit : id = key
  · rw [if_pos hit, if_pos hit]
    rfl
  · rw [if_neg hit, if_neg hit]
    rfl

namespace Segmented

def shown (documents : List Stored) (id : String) : Except SearchError (Option Document) :=
  match documents.find? fun stored => stored.id == id with
  | some stored => stored.toDocument.map some
  | none => .ok none

theorem shown_replace (documents : List Stored) (stored : Stored) (id : String) :
    shown (documents.filter (fun other => other.id != stored.id) ++ [stored]) id =
      if id = stored.id then stored.toDocument.map some else shown documents id := by
  unfold shown
  rw [List.find?_append, Mirrors.find?_without]
  by_cases hit : id = stored.id
  · simp [hit]
  · have missed : ([stored].find? fun other => other.id == id) = none := by
      simp [Ne.symm hit]
    rw [missed, if_neg hit, if_neg hit, Option.or_none]

theorem files {document : Document} {stored : Stored} (stores : Stored.ofDocument document = .ok stored) :
    Engine.Files Segmented document stored.id stored.toDocument := by
  have performed (generation : Segmented) : Engine.perform (.add [document]) generation =
      (.ok (), { generation with pending := generation.pending ++ [.add stored] }) := by
    change Segmented.perform (.add [document]) generation = _
    simp only [Segmented.perform, prepare, stores, List.map_cons, List.map_nil]
  refine ⟨fun generation => by rw [performed], fun generation id => ?_⟩
  have settled (generation : Segmented) : Engine.find (Engine.performAll [.commit] generation).2 id =
      shown (generation.pending.foldl Layers.apply ⟨generation.segments, []⟩).documents id := by
    rw [← Layers.flatten_close]
    rfl
  have after : (Engine.performAll [.add [document], .commit] generation).2 =
      (Engine.performAll [.commit] { generation with pending := generation.pending ++ [Change.add stored] }).2 := by
    unfold Engine.performAll
    rw [performed]
    rfl
  rw [after, settled, settled, List.foldl_append, List.foldl_cons, List.foldl_nil, Layers.documents_apply_add]
  exact shown_replace _ _ _

end Segmented

/-! ### Rebuilds over engines that judge documents by their identity -/

/-- An engine that refuses documents as invalid only if one of them is not identified. -/
class Engine.Admits (γ : Type) [Engine γ] : Prop where
  unidentified {operation : Operation} {engine : γ} {detail : String}
    (refused : (Engine.perform operation engine).1 = .error (.invalidDocument detail)) :
    ∃ documents, operation = .add documents ∧ ∃ document ∈ documents, ¬ document.Identified

instance : Engine.Admits Memory where
  unidentified {operation memory detail} refused := by
    change (Memory.perform operation memory).1 = _ at refused
    cases operation with
    | add documents =>
      refine ⟨documents, rfl, ?_⟩
      by_contra! identified
      have whole : documents.takeWhile (fun document => document.id?.isSome) = documents :=
        List.takeWhile_eq_self_iff.2 fun document member => (identified document member).id
      simp [Memory.perform, Memory.acceptable, whole] at refused
    | delete query =>
      unfold Memory.perform at refused
      cases asked : Change.ofQuery? query <;> simp [asked] at refused
    | commit => cases refused
    | rollback => cases refused
    | optimize => cases refused

theorem Segmented.prepare_of_identified {documents : List Document}
    (identified : ∀ document ∈ documents, document.Identified) : (prepare documents).2 = .ok () := by
  have shared : ∀ document ∈ documents, document.Identified ∨ document.id? = none :=
    fun document member => .inl (identified document member)
  have whole : documents.takeWhile (fun document => document.id?.isSome) = documents :=
    List.takeWhile_eq_self_iff.2 fun document member => (identified document member).id
  rw [(prepare_of_shared shared).2]
  simp [Memory.acceptable, whole]

theorem Segmented.queryParse_of_changeOf {query : String} {error : SearchError}
    (refused : changeOf query = .error error) : ∃ text, error = .queryParse text := by
  unfold changeOf at refused
  split at refused
  · cases refused
  · unfold Query.parse at refused
    cases reading : Query.read? query with
    | some query => simp [reading, Except.map] at refused
    | none =>
      simp only [reading, Except.map, Except.error.injEq] at refused
      exact ⟨_, refused.symm⟩

instance : Engine.Admits Segmented where
  unidentified {operation generation detail} refused := by
    change (Segmented.perform operation generation).1 = _ at refused
    cases operation with
    | add documents =>
      refine ⟨documents, rfl, ?_⟩
      by_contra! identified
      have prepared : (Segmented.perform (.add documents) generation).1 = .ok () :=
        Segmented.prepare_of_identified identified
      rw [prepared] at refused
      cases refused
    | delete query =>
      unfold Segmented.perform at refused
      cases asked : Segmented.changeOf query with
      | ok change => simp [asked] at refused
      | error error =>
        obtain ⟨text, rfl⟩ := Segmented.queryParse_of_changeOf asked
        simp [asked] at refused
    | commit => cases refused
    | rollback => cases refused
    | optimize => cases refused

/-- A rule that never pretends that a document is invalid. -/
class FaultRule.Honest (ρ : Type) [FaultRule ρ] : Prop where
  valid {operation : Operation} {rule : ρ} {error : SearchError}
    (meets : (FaultRule.meet operation rule).1 = some error) (detail : String) : error ≠ .invalidDocument detail

instance : FaultRule.Honest FaultPlan where
  valid {operation plan error} meets detail same := by
    subst same
    change (FaultPlan.meet operation plan).1 = _ at meets
    cases operation <;> simp [FaultPlan.meet] at meets

instance : FaultRule.Honest LossPlan where
  valid {operation plan error} meets detail same := by
    subst same
    change (LossPlan.meet operation plan).1 = _ at meets
    cases operation <;> simp [LossPlan.meet] at meets

instance {ρ γ : Type} [FaultRule ρ] [FaultRule.Honest ρ] [Engine γ] [Engine.Admits γ] :
    Engine.Admits (Faulty ρ γ) where
  unidentified {operation generation detail} refused := by
    cases meets : (FaultRule.meet operation generation.rule).1 with
    | some error =>
      rw [Faulty.perform_of_fault meets] at refused
      exact absurd (Except.error.inj refused) (FaultRule.Honest.valid meets detail)
    | none =>
      rw [Faulty.perform_of_none meets] at refused
      exact Engine.Admits.unidentified refused

instance {γ δ : Type} [Engine γ] [Engine δ] [Engine.Admits γ] [Engine.Admits δ] : Engine.Admits (γ ⊕ δ) where
  unidentified {operation engine detail} refused := by
    cases engine with
    | inl engine =>
      have refused : (Engine.perform operation engine).1 = .error (.invalidDocument detail) := refused
      exact Engine.Admits.unidentified refused
    | inr engine =>
      have refused : (Engine.perform operation engine).1 = .error (.invalidDocument detail) := refused
      exact Engine.Admits.unidentified refused

/-! ### What a rebuild adds -/

section

variable {plan : Plan} {history : History} {documents : List Document} {reply : Except SearchError Unit}

theorem not_add_of_brokenClear {error : SearchError} {requests : List Request} (broken : BrokenClear error requests) :
    ⟨.add documents, reply⟩ ∉ requests := by
  cases broken <;> simp [refused, granted]

theorem not_add_clearing : ⟨.add documents, reply⟩ ∉ clearing := by simp [clearing, granted]

theorem page_of_add_writing {pages : List BuiltPage}
    (added : ⟨.add documents, reply⟩ ∈ pages.flatMap BuiltPage.writing) :
    ∃ page ∈ pages, page.documents = documents := by
  obtain ⟨page, member, written⟩ := List.mem_flatMap.1 added
  refine ⟨page, member, ?_⟩
  unfold BuiltPage.writing writing at written
  split at written
  · cases written
  · simp only [granted, List.mem_cons, Sigma.mk.injEq, Operation.add.injEq, reduceCtorEq, false_and,
      List.not_mem_nil, or_false] at written
    exact written.1.symm

theorem page_of_add_breaks {rest : List BuiltPage} {tail : List Request} (breaks : Breaks rest tail)
    (added : ⟨.add documents, reply⟩ ∈ tail) : ∃ page ∈ rest, page.documents = documents := by
  cases breaks with
  | nothing => cases added
  | page nonempty broken =>
    refine ⟨_, List.mem_singleton_self _, ?_⟩
    cases broken <;> simp_all [refused, granted]

theorem Account.page_of_add {outcome : Except Stop Report} (account : Account plan history outcome)
    (added : ⟨.add documents, reply⟩ ∈ history.requests) :
    ∃ page ∈ history.built plan, page.documents = documents := by
  have filled {before : History} {pages : List BuiltPage} {outcome : Except SearchError Unit}
      (filled : Filled plan before pages [⟨.optimize, outcome⟩]) (added : ⟨.add documents, reply⟩ ∈ before.requests) :
      ∃ page ∈ before.built plan, page.documents = documents := by
    rw [filled.requests, List.mem_append, List.mem_append] at added
    rw [filled.built]
    rcases added with added | added | added
    · exact absurd added not_add_clearing
    · exact page_of_add_writing added
    · simp at added
  cases account with
  | rejected => cases added
  | uncleared broken made =>
    rw [made] at added
    exact absurd added (not_add_of_brokenClear broken)
  | interrupted built made breaks =>
    rw [made, List.mem_append, List.mem_append] at added
    rw [built]
    rcases added with added | added | added
    · exact absurd added not_add_clearing
    · obtain ⟨page, member, same⟩ := page_of_add_writing added
      exact ⟨page, List.mem_append_left _ member, same⟩
    · obtain ⟨page, member, same⟩ := page_of_add_breaks breaks added
      exact ⟨page, List.mem_append_right _ member, same⟩
  | unexchanged whole => exact filled whole added
  | @exchanged before after pages isShared swapped outcome whole unswapped sure mode closing once unchecked cleans =>
    rw [History.built_swap closing]
    rw [History.requests_append, List.mem_append] at added
    rcases added with added | added
    · exact filled whole added
    · have added : ⟨.add documents, reply⟩ ∈ after.requests := added
      generalize after.requests = made at added cleans
      cases cleans with
      | spared => cases added
      | cleaned => exact absurd added not_add_clearing
      | uncleaned dual broken => exact absurd added (not_add_of_brokenClear broken)

theorem Account.identified_of_add {outcome : Except Stop Report} (account : Account plan history outcome)
    (added : ⟨.add documents, reply⟩ ∈ history.requests) : ∀ document ∈ documents, document.Identified := by
  obtain ⟨page, member, rfl⟩ := account.page_of_add added
  obtain ⟨descriptors, locales, request, replies, path⟩ := Journal.path_of_mem_built member
  intro document inPage
  obtain ⟨item, -, identified⟩ := Builder.identifiedAs_of_path_buildAll path document inPage
  exact identified.identified

end

/-! ### What a rebuild fails with -/

def RebuildError.search? : RebuildError → Option SearchError
  | rebuildFailed error => some error
  | deleteFailed error => some error
  | _ => none

theorem Exchange.failed_of_search? {previous : Option Exchange} {exchange : Exchange} {error : RebuildError}
    {cause : SearchError} (failed : exchange.failure? previous = some error) (told : error.search? = some cause) :
    (∃ operation, exchange = ⟨.perform operation, .error cause⟩) ∨ exchange = ⟨.swap, .error cause⟩ := by
  unfold failure? at failed
  split at failed
  case h_2 =>
    cases failed
    split at told
    all_goals
      cases told
      exact .inl ⟨_, rfl⟩
  case h_5 =>
    cases failed
    cases told
    exact .inr rfl
  all_goals
    cases failed <;> cases told <;> exact .inl ⟨_, rfl⟩

theorem Pair.fileSystem_of_swap {γ : Type} {pair : Pair γ} {error : SearchError} (failed : pair.swap.1 = .error error) :
    ∃ detail, error = .fileSystem detail := by
  unfold swap at failed
  split at failed
  · cases failed
  · split at failed
    · cases blocked : pair.marker with
      | blocked =>
        simp only [blocked, Marker.write, Except.error.injEq] at failed
        exact ⟨_, failed.symm⟩
      | sealed text =>
        simp only [blocked, Marker.write, Except.error.injEq] at failed
        exact ⟨_, failed.symm⟩
      | absent => simp [blocked, Marker.write] at failed
      | written text => simp [blocked, Marker.write] at failed
    · cases failed

theorem Site.Leads.exists_gives {γ : Type} [Engine γ] {site last : Site γ} {before after : History} {call : Call}
    {reply : call.Reply} (leads : site.Leads (before ++ ⟨call, reply⟩ :: after) last) :
    ∃ middle : Site γ, middle.Gives call reply := by
  obtain ⟨middle, -, second⟩ := leads_append.1 leads
  cases second with
  | cons gives later => exact ⟨middle, gives⟩

namespace World

variable {γ σ : Type} [Engine γ] [Engine.Admits γ]

theorem search?_ne_invalidDocument {plan : Plan} {surroundings : Surroundings σ} {asOf : Instant} {world : World γ σ}
    {error : RebuildError} (failed : (world.rebuild plan surroundings asOf).1 = .error (.failed error))
    (detail : String) : error.search? ≠ some (.invalidDocument detail) := by
  intro told
  have rebuilds := World.rebuilds plan surroundings asOf world
  have account := rebuilds.account
  have leads : world.site.Leads (world.history plan surroundings asOf) _ := leads
  rcases rebuilds.explains with ⟨-, rejected⟩ | explains
  · rw [failed] at rejected
    cases rejected
    cases told
  · rw [failed] at explains
    rcases explains.failed with ⟨rfl, -, -⟩ | ⟨before, exchange, after, split, failure⟩
    · cases told
    · rw [split] at leads account
      -- A request that is refused so adds a document that is not identified, which no rebuild does, and a swap fails on
      -- account of its file.
      rcases Exchange.failed_of_search? failure told with ⟨operation, rfl⟩ | rfl
      · obtain ⟨middle, gives⟩ := leads.exists_gives
        have refused : .error (.invalidDocument detail) = (middle.generations.performReindex operation).1 := gives
        rw [Pair.fst_performReindex] at refused
        obtain ⟨documents, rfl, document, member, unidentified⟩ := Engine.Admits.unidentified refused.symm
        have added : ⟨.add documents, .error (.invalidDocument detail)⟩ ∈ History.requests
            (before ++ ⟨.perform (.add documents), .error (.invalidDocument detail)⟩ :: after) :=
          List.mem_filterMap.2 ⟨_, List.mem_append_right _ List.mem_cons_self, rfl⟩
        exact unidentified (account.identified_of_add added document member)
      · obtain ⟨middle, gives⟩ := leads.exists_gives
        have refused : .error (.invalidDocument detail) = middle.generations.swap.1 := gives
        obtain ⟨text, impossible⟩ := Pair.fileSystem_of_swap refused.symm
        cases impossible

end World

/-- The identity of a document cannot be spoiled. Whatever descriptors and handlers contribute, a document that is
built is identified as that of its item, has a stored form, and is accepted by both kinds of generation and found
under the id of its item; and no rebuild over them ends with an invalid document. -/
theorem Builder.identity_unspoiled :
    (∀ (builder : Builder) (item : Item) (descriptors : List Descriptor) (locales : List Locale)
      (request : RequestContext) (replies : List Consulted) (document : Document),
      (builder.build item descriptors locales request).Path replies (.ok document) →
        document.IdentifiedAs builder.nameSpace item ∧
        Stored.ofDocument document = .ok ⟨builder.nameSpace, Naming.documentId builder.nameSpace item.id, item.id,
          Stored.hold document.toJson.reread⟩ ∧
        Engine.Files Memory document (Naming.documentId builder.nameSpace item.id) (.ok document) ∧
        Engine.Files Segmented document (Naming.documentId builder.nameSpace item.id) (Stored.restored document)) ∧
    ∀ (γ σ : Type) [Engine γ] [Engine.Admits γ] (plan : Plan) (surroundings : Surroundings σ) (asOf : Instant)
      (world : World γ σ) (error : RebuildError) (detail : String),
      (world.rebuild plan surroundings asOf).1 = .error (.failed error) →
        error.search? ≠ some (.invalidDocument detail) := by
  refine ⟨fun builder item descriptors locales request replies document path => ?_, ?_⟩
  · have identified := identifiedAs_of_path path
    have onDisk := Segmented.files identified.ofDocument
    refine ⟨identified, identified.ofDocument, Memory.files identified.id, ?_⟩
    unfold Stored.restored
    rw [identified.ofDocument]
    exact onDisk
  · intro γ σ _ _ plan surroundings asOf world error detail failed
    exact World.search?_ne_invalidDocument failed detail

namespace Trial

/-- A document to which a handler has added a second text under the field of the id. -/
def spoiled : Document := (plan.builder.identity (.new 1)).addAll [(Document.idField, [.text "spoiled"])]

end Trial

theorem Builder.identity_unspoiled_trial :
    Trial.spoiled.values Document.idField = [.text (Naming.documentId "catalog" 1), .text "spoiled"] ∧
      Engine.Files Memory Trial.spoiled (Naming.documentId "catalog" 1) (.ok Trial.spoiled) ∧
      ∃ error, ((Trial.world (Trial.refusing 2)).rebuild Trial.plan (Trial.parties 0).surroundings .epoch).1 =
          .error (.failed error) ∧
        ∀ detail, error.search? ≠ some (.invalidDocument detail) := by
  have path : (Trial.plan.builder.build (.new 1) [] [] .empty).Path
      [⟨.attach 0 (.new 1) (Trial.plan.builder.identity (.new 1)),
        Attachment.mk [(Document.idField, [.text "spoiled"])] (.ok false)⟩] (.ok Trial.spoiled) :=
    .ask (.done _)
  refine ⟨rfl, (identity_unspoiled.1 _ _ _ _ _ _ _ path).2.2.1, _, rfl, fun detail => ?_⟩
  exact identity_unspoiled.2 _ _ Trial.plan (Trial.parties 0).surroundings .epoch (Trial.world (Trial.refusing 2))
    _ detail rfl

end CatalogIndex
