import CatalogIndex.Proofs.Backing
import CatalogIndex.Proofs.Faultless
import CatalogIndex.Proofs.Identity
import Mathlib.Data.List.Forall2
import Mathlib.Data.List.TakeWhile
/-!
The outcome of a rebuild without faults. It is decided by the active items alone: the page size, what was in the
generations before and what goes on around the rebuild do not matter.
-/
namespace CatalogIndex

theorem Dialogue.answer_of_path {Question : Type} {Reply : Question → Type} {α : Type}
    {reply : (question : Question) → Reply question} {dialogue : Dialogue Reply α}
    {exchanges : List ((question : Question) × Reply question)} {result : α} (path : dialogue.Path exchanges result)
    (fixed : ∀ exchange ∈ exchanges, exchange.2 = reply exchange.1) : result = dialogue.answer reply := by
  induction path with
  | done answer => rfl
  | @ask question next given rest answer path ih =>
    have first : given = reply question := fixed _ List.mem_cons_self
    have later := ih fun exchange member => fixed exchange (List.mem_cons_of_mem _ member)
    rw [first] at later
    exact later

theorem Dialogue.exists_path_answer {Question : Type} {Reply : Question → Type} {α : Type}
    (reply : (question : Question) → Reply question) (dialogue : Dialogue Reply α) :
    ∃ exchanges, dialogue.Path exchanges (dialogue.answer reply) := by
  induction dialogue with
  | done answer => exact ⟨[], .done answer⟩
  | ask question next ih =>
    obtain ⟨exchanges, path⟩ := ih (reply question)
    exact ⟨_, .ask path⟩

namespace Parties

variable {parties : Parties} {builder : Builder} {request : RequestContext} {item : Item}

def attachment (parties : Parties) (builder : Builder) (item : Item) : Except ExtensionError Bool :=
  ((builder.chain.attach item (builder.identity item)).answer parties.handler).2

def document (parties : Parties) (builder : Builder) (request : RequestContext) (item : Item) :
    Except ExtensionError Document :=
  (builder.build item parties.descriptors parties.locales request).answer parties.handler

theorem exists_document {taken : Bool} (attached : parties.attachment builder item = .ok taken) :
    ∃ document, parties.document builder request item = .ok document := by
  unfold attachment at attached
  unfold document Builder.build
  rw [Dialogue.answer_bind]
  generalize (builder.chain.attach item (builder.identity item)).answer parties.handler = reply at attached
  obtain ⟨document, outcome⟩ := reply
  cases attached
  dsimp only
  rw [Dialogue.answer_bind]
  exact ⟨_, rfl⟩

theorem document_of_refused {error : ExtensionError} (refused : parties.attachment builder item = .error error) :
    parties.document builder request item = .error error := by
  unfold attachment at refused
  unfold document Builder.build
  rw [Dialogue.answer_bind]
  generalize (builder.chain.attach item (builder.identity item)).answer parties.handler = reply at refused
  obtain ⟨document, outcome⟩ := reply
  cases refused
  rfl

theorem id_of_document {document : Document} (built : parties.document builder request item = .ok document) :
    document.id? = some (Naming.documentId builder.nameSpace item.id) := by
  obtain ⟨exchanges, path⟩ := Dialogue.exists_path_answer parties.handler
    (builder.build item parties.descriptors parties.locales request)
  exact Builder.ends_build exchanges _ path document built

theorem answer_buildAll (items : List Item) :
    (builder.buildAll items parties.descriptors parties.locales request).answer parties.handler =
      items.mapM (parties.document builder request) := by
  induction items with
  | nil => rfl
  | cons item rest ih =>
    unfold Builder.buildAll
    rw [Dialogue.answer_bind, List.mapM_cons]
    cases built : parties.document builder request item with
    | error error =>
      unfold document at built
      rw [built]
      rfl
    | ok document =>
      unfold Parties.document at built
      rw [built]
      dsimp only
      rw [Dialogue.answer_bind, ih]
      cases rest.mapM (parties.document builder request) <;> rfl

theorem forall₂_of_documents {items : List Item} {documents : List Document}
    (built : items.mapM (parties.document builder request) = .ok documents) :
    List.Forall₂ (fun item document => parties.document builder request item = .ok document) items documents := by
  induction items generalizing documents with
  | nil =>
    cases built
    exact .nil
  | cons item rest ih =>
    rw [List.mapM_cons] at built
    cases first : parties.document builder request item with
    | error error =>
      rw [first] at built
      cases built
    | ok document =>
      cases later : rest.mapM (parties.document builder request) with
      | error error =>
        rw [first, later] at built
        cases built
      | ok others =>
        rw [first, later] at built
        cases built
        exact .cons first (ih later)

theorem ids_of_documents {items : List Item} {documents : List Document}
    (built : items.mapM (parties.document builder request) = .ok documents) :
    ∀ document ∈ documents, document.id?.isSome = true := by
  have each := forall₂_of_documents built
  clear built
  induction each with
  | nil => simp
  | cons first rest ih => simpa [id_of_document first] using ih

theorem mapM_append_ok {first second : List Item} {documents : List Document}
    (built : first.mapM (parties.document builder request) = .ok documents) :
    (first ++ second).mapM (parties.document builder request) =
      (second.mapM (parties.document builder request)).map (documents ++ ·) := by
  rw [List.mapM_append, built]
  cases second.mapM (parties.document builder request) <;> rfl

theorem mapM_append_error {first second : List Item} {error : ExtensionError}
    (failed : first.mapM (parties.document builder request) = .error error) :
    (first ++ second).mapM (parties.document builder request) = .error error := by
  rw [List.mapM_append, failed]
  rfl

def Fair (parties : Parties) (history : History) : Prop := ∀ exchange ∈ history, parties.Sound exchange

theorem fair_cons {exchange : Exchange} {history : History} :
    parties.Fair (exchange :: history) ↔ parties.Sound exchange ∧ parties.Fair history := List.forall_mem_cons

theorem fair_append {before after : History} :
    parties.Fair (before ++ after) ↔ parties.Fair before ∧ parties.Fair after := List.forall_mem_append

theorem answer_of_told {α : Type} {consultation : Consultation α} {replies : List Consulted} {result : α}
    (path : consultation.Path replies result) (fair : parties.Fair (replies.map told)) :
    result = consultation.answer parties.handler := by
  refine Dialogue.answer_of_path path fun consulted member => ?_
  have sound : Answer.returned consulted.2 = .returned (parties.handler consulted.1) :=
    fair (told consulted) (List.mem_map_of_mem member)
  exact Answer.returned.inj sound

end Parties

namespace Run

variable {parties : Parties} {plan : Plan} {asOf : Instant} {request : RequestContext} {page : Nat}
  {known : Option (List Locale)} {history : History}

def pageItems (parties : Parties) (plan : Plan) (asOf : Instant) (page : Nat) : List Item :=
  parties.catalog.pageActive (UInt64.ofNat page) plan.config.pageSize asOf

/-- How a part ends whose course is decided by the documents of some items: with a result that goes with them, or
with the failure to build them. -/
inductive Decided {α : Type} (goesWith : List Document → α → Prop) :
    Except ExtensionError (List Document) → Except Stop α → Prop where
  | built {documents : List Document} {value : α} (goes : goesWith documents value) :
      Decided goesWith (.ok documents) (.ok value)
  | failed (error : ExtensionError) : Decided goesWith (.error error) (.error (.failed (.extension error)))

namespace Decided

variable {α : Type} {goesWith : List Document → α → Prop} {result : Except ExtensionError (List Document)}
  {value : α} {stop : Stop}

theorem documents_of_ok (decided : Decided goesWith result (.ok value)) :
    ∃ documents, result = .ok documents ∧ goesWith documents value := by
  cases decided with
  | built goes => exact ⟨_, rfl, goes⟩

theorem failure_of_error (decided : Decided goesWith result (.error stop)) :
    ∃ error, result = .error error ∧ stop = .failed (.extension error) := by
  cases decided with
  | failed error => exact ⟨error, rfl, rfl⟩

end Decided

theorem Lost.not_sound {α ε : Type} {wrap : ε → RebuildError} {answer : Answer (Except ε α)} {stop : Stop}
    {value : α} (lost : Lost wrap answer stop) (sound : answer = .returned (.ok value)) : False := by
  rw [sound] at lost
  cases lost

theorem Builds.outcome_of_fair {outcome : Except Stop (List Document × List Locale)}
    (builds : Builds plan asOf request page known history outcome) (fair : parties.Fair history)
    (knows : ∀ locales, known = some locales → locales = parties.locales) :
    Decided (fun documents value => value = (documents, parties.locales))
      ((pageItems parties plan asOf page).mapM (parties.document plan.builder request)) outcome := by
  have readings {items : List Item} {descriptors : List Descriptor} {rest : History}
      (fair : parties.Fair (itemsRead plan asOf page items :: descriptorsRead descriptors :: rest)) :
      items = pageItems parties plan asOf page ∧ descriptors = parties.descriptors ∧ parties.Fair rest := by
    obtain ⟨first, fair⟩ := Parties.fair_cons.1 fair
    obtain ⟨second, fair⟩ := Parties.fair_cons.1 fair
    exact ⟨Except.ok.inj (Answer.returned.inj first), Except.ok.inj (Answer.returned.inj second), fair⟩
  have location {locating : History} {locales : List Locale} (located : Located known locating locales)
      (fair : parties.Fair locating) : locales = parties.locales := by
    cases located with
    | known => exact knows locales rfl
    | read => exact Except.ok.inj (Answer.returned.inj (fair _ List.mem_cons_self))
  cases builds with
  | unread lost => exact (lost.not_sound (fair _ List.mem_cons_self)).elim
  | undescribed lost =>
    exact (lost.not_sound (fair _ (List.mem_cons_of_mem _ List.mem_cons_self))).elim
  | unlocated lost =>
    exact (lost.not_sound (fair _ (List.mem_cons_of_mem _ (List.mem_cons_of_mem _ List.mem_cons_self)))).elim
  | unheard located unanswered =>
    obtain ⟨-, -, fair⟩ := readings fair
    obtain ⟨-, fair⟩ := Parties.fair_append.1 fair
    obtain ⟨-, fair⟩ := Parties.fair_append.1 fair
    cases (fair _ List.mem_cons_self : Answer.panicked _ = Answer.returned _)
  | unbuilt located answered =>
    obtain ⟨rfl, rfl, later⟩ := readings fair
    obtain ⟨locating, handling⟩ := Parties.fair_append.1 later
    obtain rfl := location located locating
    rw [← Parties.answer_buildAll, ← Parties.answer_of_told answered handling]
    exact .failed _
  | built located answered =>
    obtain ⟨rfl, rfl, later⟩ := readings fair
    obtain ⟨locating, handling⟩ := Parties.fair_append.1 later
    obtain rfl := location located locating
    rw [← Parties.answer_buildAll, ← Parties.answer_of_told answered handling]
    exact .built rfl

theorem not_broken {documents : List Document} {error : SearchError} {requests : List Request}
    (ids : ∀ document ∈ documents, document.id?.isSome = true) (broken : BrokenWrite documents error requests)
    (fair : parties.Fair (requests.map asked)) : False := by
  cases broken with
  | add reply =>
    obtain ⟨memory, refused⟩ := fair _ List.mem_cons_self
    have refused : .error error = (Memory.perform (.add documents) memory).1 := refused
    have whole : documents.takeWhile (fun document => document.id?.isSome) = documents := by
      rw [List.takeWhile_eq_self_iff]
      exact ids
    simp [Memory.perform, Memory.acceptable, whole] at refused
  | commit reply =>
    obtain ⟨memory, refused⟩ := fair _ (List.mem_cons_of_mem _ List.mem_cons_self)
    cases refused

theorem Writes.outcome_of_fair {outcome : Except Stop (Nat × List Locale)}
    (writes : Writes plan asOf request page known history outcome) (fair : parties.Fair history)
    (knows : ∀ locales, known = some locales → locales = parties.locales) :
    Decided (fun documents value => value.2 = parties.locales ∧ history.requests = writing documents)
      ((pageItems parties plan asOf page).mapM (parties.document plan.builder request)) outcome := by
  cases writes with
  | unbuilt builds =>
    obtain ⟨error, failed, rfl⟩ := (builds.outcome_of_fair fair knows).failure_of_error
    rw [failed]
    exact .failed error
  | unwritten builds nonempty broken =>
    obtain ⟨building, writing⟩ := Parties.fair_append.1 fair
    obtain ⟨documents, built, same⟩ := (builds.outcome_of_fair building knows).documents_of_ok
    cases same
    exact (not_broken (Parties.ids_of_documents built) broken writing).elim
  | written builds =>
    obtain ⟨documents, built, same⟩ := (builds.outcome_of_fair (Parties.fair_append.1 fair).1 knows).documents_of_ok
    cases same
    rw [built]
    refine .built ⟨rfl, ?_⟩
    rw [History.requests_append, builds.building.silent.requests, History.requests_asked, List.nil_append]

/-- A transaction without faults ends as its work does, and asks nothing of the site. -/
theorem Transacts.works_of_fair {α : Type} {work : Run α} {outcome : Except Stop α}
    (transacts : Transacts work history outcome) (fair : parties.Fair history) :
    ∃ working, Goes work working outcome ∧ parties.Fair working ∧ history.requests = working.requests := by
  -- Without faults a transaction ends as it is asked to.
  have finishing {transaction : Transaction} {isError : Bool} {finishing : History}
      {ending : Except Stop (Except TransactionError Unit)} (finishes : Finishes transaction isError finishing ending)
      (fair : parties.Fair finishing) : ending = .ok (.ok ()) := by
    cases finishes with
    | left => rfl
    | asked asks answer =>
      have sound : answer = .returned (.ok ()) := fair _ List.mem_cons_self
      rw [sound]
      rfl
  cases transacts with
  | unbegun lost =>
    obtain ⟨transaction, sound⟩ := fair _ List.mem_cons_self
    exact (lost.not_sound sound).elim
  | committed works finishes =>
    obtain ⟨-, fair⟩ := Parties.fair_cons.1 fair
    refine ⟨_, works, (Parties.fair_append.1 fair).1, ?_⟩
    simp [begun, Exchange.request?, finishes.silent.requests]
  | uncommitted works finishes =>
    obtain ⟨-, fair⟩ := Parties.fair_cons.1 fair
    cases finishing finishes (Parties.fair_append.1 fair).2
  | unfinished works finishes =>
    obtain ⟨-, fair⟩ := Parties.fair_cons.1 fair
    cases finishing finishes (Parties.fair_append.1 fair).2
  | rolledBack works finishes =>
    obtain ⟨-, fair⟩ := Parties.fair_cons.1 fair
    refine ⟨_, works, (Parties.fair_append.1 fair).1, ?_⟩
    simp [begun, Exchange.request?, finishes.silent.requests]
  | notRolledBack works finishes =>
    obtain ⟨-, fair⟩ := Parties.fair_cons.1 fair
    cases finishing finishes (Parties.fair_append.1 fair).2
  | dropped works =>
    obtain ⟨-, fair⟩ := Parties.fair_cons.1 fair
    refine ⟨_, works, fair, ?_⟩
    simp [begun, Exchange.request?]

theorem fits_next {total : UInt64} (small : 2 * total.toNat ≤ UInt64.size)
    (below : page * plan.config.pageSize.toNat < total.toNat) :
    (page + 1) * plan.config.pageSize.toNat < UInt64.size := by
  rw [Nat.succ_mul]
  cases page with
  | zero =>
    rw [Nat.zero_mul, Nat.zero_add]
    exact plan.config.pageSize.toNat_lt_size
  | succ page =>
    have large : plan.config.pageSize.toNat ≤ (page + 1) * plan.config.pageSize.toNat :=
      Nat.le_mul_of_pos_left _ (Nat.succ_pos page)
    omega

theorem drop_pageItems (fits : page * plan.config.pageSize.toNat < UInt64.size) :
    (parties.catalog.active asOf).drop (page * plan.config.pageSize.toNat) =
      pageItems parties plan asOf page ++
        (parties.catalog.active asOf).drop ((page + 1) * plan.config.pageSize.toNat) := by
  have positive : 1 ≤ plan.config.pageSize.toNat := by
    refine Nat.pos_of_ne_zero fun isZero => ?_
    exact plan.pageSize_ne_zero (UInt64.toNat_inj.1 isZero)
  have small : page < UInt64.size := Nat.lt_of_le_of_lt (Nat.le_mul_of_pos_right page positive) fits
  have number : (UInt64.ofNat page).toNat = page := UInt64.toNat_ofNat_of_lt' small
  unfold pageItems
  rw [Catalog.pageActive_of_fits (by rwa [number]), number, Nat.succ_mul, ← List.drop_drop]
  exact (List.take_append_drop _ _).symm

/-- A sweep without faults writes the documents of all items from its page on, in batches, or ends with the
failure to build the first of them that cannot be built. -/
theorem Sweeps.outcome_of_fair {total : UInt64} {progress : Progress} {outcome : Except Stop Progress}
    (sweeps : Sweeps plan asOf request total page known progress history outcome) (fair : parties.Fair history)
    (knows : ∀ locales, known = some locales → locales = parties.locales) (small : 2 * total.toNat ≤ UInt64.size)
    (counted : total.toNat = (parties.catalog.active asOf).length)
    (fits : page * plan.config.pageSize.toNat < UInt64.size) :
    Decided (fun documents _ => ∃ batches : List (List Document),
        history.requests = batches.flatMap writing ∧ batches.flatten = documents)
      (((parties.catalog.active asOf).drop (page * plan.config.pageSize.toNat)).mapM
        (parties.document plan.builder request)) outcome := by
  -- What is left to build are the items from the page on: first those of the page, then those from the next one on.
  induction sweeps with
  | @ended page known progress fits beyond =>
    rw [List.drop_eq_nil_of_le (by omega)]
    exact .built ⟨[], rfl, rfl⟩
  | overflown overflows => omega
  | cancelled below => cases (fair _ List.mem_cons_self : true = false)
  | @stopped page known progress paging stop below transacts =>
    obtain ⟨working, works, fair, -⟩ := transacts.works_of_fair (Parties.fair_cons.1 fair).2
    obtain ⟨error, failed, rfl⟩ := ((goes_writePage works).outcome_of_fair fair knows).failure_of_error
    rw [drop_pageItems fits, Parties.mapM_append_error failed]
    exact .failed error
  | unheard below transacts =>
    obtain ⟨-, fair⟩ := Parties.fair_append.1 (Parties.fair_cons.1 fair).2
    cases (fair _ List.mem_cons_self : Answer.panicked _ = Answer.returned _)
  | @next page known progress paging rest written locales outcome below transacts sweeps ih =>
    obtain ⟨paged, reported⟩ := Parties.fair_append.1 (Parties.fair_cons.1 fair).2
    have swept := (Parties.fair_cons.1 reported).2
    obtain ⟨working, works, worked, made⟩ := transacts.works_of_fair paged
    obtain ⟨documents, built, located, requests⟩ :=
      ((goes_writePage works).outcome_of_fair worked knows).documents_of_ok
    have later := ih swept (fun others same => (Option.some.inj same).symm.trans located) (fits_next small below)
    rw [drop_pageItems fits, Parties.mapM_append_ok built]
    generalize ((parties.catalog.active asOf).drop ((page + 1) * plan.config.pageSize.toNat)).mapM
      (parties.document plan.builder request) = further at later
    cases later with
    | failed error => exact .failed error
    | built goes =>
      obtain ⟨batches, same, flat⟩ := goes
      refine .built ⟨documents :: batches, ?_, ?_⟩
      · simp [Exchange.request?, made, requests, same]
      · rw [List.flatten_cons, flat]

end Run
end CatalogIndex
