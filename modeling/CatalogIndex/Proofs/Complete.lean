import CatalogIndex.Proofs.Contents
/-!
A rebuild without faults leaves exactly the index of the active items in the generation that serves queries. Of
what was committed or waited in either generation nothing is left, and where there are two the former active one
ends up empty.
-/
namespace CatalogIndex

/-- The two sides of the swap of a rebuild without faults that has written some documents. -/
structure Completes (documents : List Document) (isShared : Bool) (before after : History) : Prop where
  requests : ∃ batches : List (List Document), batches.flatten = documents ∧
    before.requests = clearing ++ (batches.flatMap writing ++ [granted .optimize])
  first : before.swaps = []
  mode : ⟨.isShared, isShared⟩ ∈ before
  cleans : after.requests = if isShared then [] else clearing
  last : after.swaps = []

theorem Completes.around {documents : List Document} {isShared : Bool} {before after front back : History}
    (completes : Completes documents isShared before after) (frontRequests : front.requests = [])
    (frontSwaps : front.swaps = []) (backRequests : back.requests = []) (backSwaps : back.swaps = []) :
    Completes documents isShared (front ++ before) (after ++ back) where
  requests := by
    rw [History.requests_append, frontRequests]
    exact completes.requests
  first := by rw [History.swaps_append, frontSwaps, completes.first, List.nil_append]
  mode := List.mem_append_right _ completes.mode
  cleans := by rw [History.requests_append, backRequests, completes.cleans, List.append_nil]
  last := by rw [History.swaps_append, backSwaps, completes.last, List.append_nil]

namespace Run

variable {parties : Parties} {plan : Plan} {asOf : Instant} {request : RequestContext} {history : History}

theorem not_brokenClear {error : SearchError} {requests : List Request} (broken : BrokenClear error requests)
    (fair : parties.Fair (requests.map asked)) : False := by
  cases broken with
  | delete =>
    obtain ⟨memory, refused⟩ := fair _ List.mem_cons_self
    have refused : .error error = (Memory.perform (.delete allDocuments) memory).1 := refused
    simp [Memory.perform, Backed.ofQuery?_allDocuments] at refused
  | commit =>
    obtain ⟨memory, refused⟩ := fair _ (List.mem_cons_of_mem _ List.mem_cons_self)
    cases refused

theorem Transacts.total_of_fair {outcome : Except Stop UInt64}
    (counts : Transacts (countWork asOf) history outcome) (fair : parties.Fair history) :
    outcome = .ok (parties.catalog.countActive asOf) ∧ history.requests = [] := by
  obtain ⟨working, works, fair, made⟩ := counts.works_of_fair fair
  obtain ⟨answer, rfl, returned⟩ := goes_countWork works
  have sound : answer = .returned (.ok (parties.catalog.countActive asOf)) := fair _ List.mem_cons_self
  exact ⟨(returned _).2 sound, made⟩

theorem toNat_countActive (few : 2 * (parties.catalog.active asOf).length ≤ UInt64.size) :
    (parties.catalog.countActive asOf).toNat = (parties.catalog.active asOf).length := by
  have positive : 0 < UInt64.size := by decide
  exact Catalog.toNat_countActive (by omega)

theorem Sweeps.whole_of_fair {progress : Progress} {outcome : Except Stop Progress}
    (sweeps : Sweeps plan asOf request (parties.catalog.countActive asOf) 0 none progress history outcome)
    (fair : parties.Fair history) (few : 2 * (parties.catalog.active asOf).length ≤ UInt64.size) :
    Decided (fun documents _ => ∃ batches : List (List Document),
        history.requests = batches.flatMap writing ∧ batches.flatten = documents)
      ((parties.catalog.active asOf).mapM (parties.document plan.builder request)) outcome := by
  have counted := toNat_countActive few
  have swept := sweeps.outcome_of_fair fair nofun (counted ▸ few) counted (by rw [Nat.zero_mul]; decide)
  rw [Nat.zero_mul, List.drop_zero] at swept
  exact swept

theorem Fills.documents_of_fair {isShared : Bool} {progress : Progress}
    (fills : Fills plan asOf request isShared history progress) (fair : parties.Fair history)
    (few : 2 * (parties.catalog.active asOf).length ≤ UInt64.size) :
    ∃ documents batches, (parties.catalog.active asOf).mapM (parties.document plan.builder request) = .ok documents ∧
      List.flatten batches = documents ∧ history.requests = clearing ++ batches.flatMap writing := by
  cases fills with
  | filled counts sweeps =>
    obtain ⟨-, fair⟩ := Parties.fair_append.1 fair
    obtain ⟨counting, sweeping⟩ := Parties.fair_append.1 fair
    obtain ⟨same, made⟩ := counts.total_of_fair counting
    cases same
    obtain ⟨documents, built, batches, written, flat⟩ := (sweeps.whole_of_fair sweeping few).documents_of_ok
    refine ⟨documents, batches, built, flat, ?_⟩
    simp [cleared, Exchange.request?, made, written]

def Swaps (history : History) (documents : List Document) (report : Report) : Prop :=
  ∃ isShared before after, history = before ++ ⟨.swap, .ok report.swapped⟩ :: after ∧
    Completes documents isShared before after

/-- The phases without faults end with a swap of what has been filled, or with the first failure to build. -/
theorem Phases.outcome_of_fair {outcome : Except Stop Report} (phases : Phases plan asOf request history outcome)
    (fair : parties.Fair history) (few : 2 * (parties.catalog.active asOf).length ≤ UInt64.size) :
    Decided (Swaps history) ((parties.catalog.active asOf).mapM (parties.document plan.builder request)) outcome := by
  -- Without faults only two endings are left: a document that cannot be built, and success.
  cases phases with
  | uncleared broken =>
    exact (not_brokenClear broken (Parties.fair_cons.1 fair).2).elim
  | uncounted counts =>
    obtain ⟨same, -⟩ := counts.total_of_fair (Parties.fair_append.1 fair).2
    cases same
  | unswept counts sweeps =>
    obtain ⟨-, fair⟩ := Parties.fair_append.1 fair
    obtain ⟨counting, sweeping⟩ := Parties.fair_append.1 fair
    obtain ⟨same, -⟩ := counts.total_of_fair counting
    cases same
    obtain ⟨error, failed, rfl⟩ := (sweeps.whole_of_fair sweeping few).failure_of_error
    rw [failed]
    exact .failed error
  | uncompacted fills =>
    obtain ⟨memory, impossible⟩ := fair _ (List.mem_append_right _ (List.mem_cons_of_mem _ List.mem_cons_self))
    cases impossible
  | cancelled fills =>
    have impossible : true = false := fair ⟨.isCancelled, true⟩ (by simp)
    cases impossible
  | @unswapped _ _ _ error fills =>
    have sound : parties.Sound ⟨.swap, .error error⟩ := fair _ (by simp)
    obtain ⟨swapped, impossible⟩ := sound
    cases impossible
  | uncleaned fills broken =>
    refine (not_brokenClear broken fun exchange member => fair exchange ?_).elim
    simp [List.mem_map.1 member]
  | @finished isShared filling progress swapped fills =>
    obtain ⟨documents, batches, built, flat, requests⟩ := fills.documents_of_fair (Parties.fair_append.1 fair).1 few
    obtain ⟨-, swaps, mode, -⟩ := fills.filled_of_closing
    rw [built]
    refine .built ⟨isShared, filling ++ approved, ⟨.enter .cleaning, ()⟩ :: _, (List.append_assoc ..).symm,
      ⟨⟨batches, flat, ?_⟩, ?_, List.mem_append_left _ mode, ?_, ?_⟩⟩
    · rw [History.requests_append, requests, List.append_assoc]
      rfl
    · rw [History.swaps_append, swaps]
      rfl
    · cases isShared <;> rfl
    · cases isShared <;> rfl

theorem Rebuilds.outcome_of_fair {outcome : Except Stop Report} {rest : History}
    (rebuilds : Rebuilds plan asOf history outcome) (fair : parties.Fair history)
    (captured : history = ⟨.acquire, true⟩ :: ⟨.enter .preparing, ()⟩ :: ⟨.capture, request⟩ :: rest)
    (few : 2 * (parties.catalog.active asOf).length ≤ UInt64.size) :
    Decided (Swaps history) ((parties.catalog.active asOf).mapM (parties.document plan.builder request)) outcome := by
  have within {middle back : History} (fair : parties.Fair (entered request ++ (middle ++ back))) :
      parties.Fair middle ∧ parties.Fair back :=
    Parties.fair_append.1 (Parties.fair_append.1 fair).2
  cases rebuilds with
  | rejected => cases captured
  | panicked phases =>
    cases captured
    obtain ⟨error, -, impossible⟩ := (phases.outcome_of_fair (within fair).1 few).failure_of_error
    cases impossible
  | failed phases =>
    cases captured
    obtain ⟨error, failed, same⟩ := (phases.outcome_of_fair (within fair).1 few).failure_of_error
    cases same
    rw [failed]
    exact .failed error
  | @completed _ _ report answer phases =>
    cases captured
    obtain ⟨worked, concluding⟩ := within fair
    obtain ⟨documents, built, isShared, before, after, rfl, completes⟩ :=
      (phases.outcome_of_fair worked few).documents_of_ok
    have sound : parties.Sound ⟨.outside (.report report.progress.complete), answer⟩ := concluding _ (by simp)
    have heard : answer = .returned () := sound
    rw [heard, built]
    refine .built ⟨isShared, entered request ++ before, after ++ [⟨.restore request, ()⟩, ⟨.enter .done, ()⟩,
      ⟨.outside (.report report.progress.complete), .returned ()⟩, ⟨.release, ()⟩], ?_,
      completes.around rfl rfl rfl rfl⟩
    rw [List.append_assoc, List.append_assoc]
    rfl

end Run

structure Replaces (index : Table Document) (before after : Pair Memory) : Prop where
  holds : Backed.Holds after.active.engine index
  isShared : after.isShared = before.isShared
  shared : before.isShared = true → after.active.name = before.active.name
  /-- Two generations have been exchanged, and the former active one is empty. -/
  dual : before.isShared = false → after.active.name = before.reindex.name ∧
    after.reindex.name = before.active.name ∧ Backed.Holds after.reindex.engine .empty

theorem Completes.holds {engine last : Memory} {documents : List Document} {isShared : Bool} {before after : History}
    (completes : Completes documents isShared before after) (serves : Serves engine before.requests last) :
    Backed.Holds last (Memory.store .empty documents) := by
  obtain ⟨batches, flat, requests⟩ := completes.requests
  rw [requests] at serves
  obtain ⟨emptied, holds, serves⟩ := Backed.holds_of_clearing serves
  obtain ⟨written, holds, serves⟩ := Backed.holds_of_batches holds serves
  rw [← flat]
  exact Backed.holds_of_optimize holds serves

theorem Site.Leads.replaces {site last : Site Memory} {documents : List Document} {isShared swapped : Bool}
    {before after : History} (leads : site.Leads (before ++ ⟨.swap, .ok swapped⟩ :: after) last)
    (completes : Completes documents isShared before after) :
    swapped = !site.generations.isShared ∧
      Replaces (Memory.store .empty documents) site.generations last.generations := by
  obtain ⟨middle, first, ok, second⟩ := leads.exchanged completes.first completes.last
  obtain ⟨exchanged, active, reindex, -, mode⟩ := Pair.swap_of_ok ok
  have told : isShared = site.generations.isShared :=
    leads.isShared.2 isShared (List.mem_append_left _ completes.mode)
  have filled : Backed.Holds middle.reindex.engine (Memory.store .empty documents) := completes.holds first.serves
  have serves := second.serves
  rw [completes.cleans, told, reindex] at serves
  refine ⟨by rw [exchanged, first.isShared], ?_⟩
  -- A single generation has been filled where it stands; of two the formerly active one is cleared behind the exchange.
  cases generations : site.generations.isShared with
  | true =>
    rw [generations, if_pos rfl] at serves
    have one : middle.isShared = true := first.isShared.trans generations
    have stillOne : last.generations.isShared = true := (second.isShared.trans mode).trans one
    refine ⟨?_, stillOne.trans generations.symm, fun _ => ?_, fun dual => ?_⟩
    · rw [← Pair.reindex_of_shared stillOne, serves_nil.1 serves, ← Pair.reindex_of_shared one]
      exact filled
    · rw [second.name_active, active, Pair.reindex_of_shared one, first.name_active]
    · rw [generations] at dual
      cases dual
  | false =>
    rw [generations, if_neg (by decide)] at serves
    have two : middle.swap.2.isShared = false := (mode.trans first.isShared).trans generations
    refine ⟨?_, (second.isShared.trans two).trans generations.symm, fun one => ?_, fun _ => ⟨?_, ?_, ?_⟩⟩
    · rw [second.active two, active]
      exact filled
    · rw [generations] at one
      cases one
    · rw [second.active two, active, first.name]
    · rw [second.name, reindex, first.name_active]
    · have cleared : Serves middle.active.engine (clearing ++ []) last.generations.reindex.engine := serves
      obtain ⟨emptied, holds, serves⟩ := Backed.holds_of_clearing cleared
      rw [serves_nil.1 serves]
      exact holds

namespace World

variable {σ : Type}

/-- A rebuild without faults succeeds if the basic fields of every active item can be had. The generation that
serves queries then holds the documents of exactly these items, each under its id. If not, it ends with the failure
of the first active item whose basic fields cannot be had. -/
theorem faultless_rebuild {plan : Plan} {surroundings : Surroundings σ} {asOf : Instant} {parties : Parties}
    {world : World Memory σ} (faultless : surroundings.Faultless parties) (idle : world.site.running = false)
    (uncancelled : world.ambience.cancelled = false)
    (unrecorded : world.site.generations.recordsActive = false)
    (few : 2 * (parties.catalog.active asOf).length ≤ UInt64.size) :
    ((∀ item ∈ parties.catalog.active asOf, ∃ taken, parties.attachment plan.builder item = .ok taken) →
      (∃ progress, (world.rebuild plan surroundings asOf).1 =
        .ok ⟨progress, !world.site.generations.isShared⟩) ∧
      Replaces (parties.index plan.builder world.ambience.context (parties.catalog.active asOf))
        world.site.generations (world.rebuild plan surroundings asOf).2.site.generations ∧
      (parties.index plan.builder world.ambience.context (parties.catalog.active asOf)).size =
        ((parties.catalog.active asOf).map Item.id).dedup.length) ∧
    (∀ before item after error, parties.catalog.active asOf = before ++ item :: after →
      (∀ other ∈ before, ∃ taken, parties.attachment plan.builder other = .ok taken) →
      parties.attachment plan.builder item = .error error →
      (world.rebuild plan surroundings asOf).1 = .error (.failed (.extension error))) := by
  obtain ⟨rest, captured⟩ : ∃ rest, world.history plan surroundings asOf = _ :: _ :: ⟨.capture, _⟩ :: rest :=
    captured_history idle
  have fair : parties.Fair (world.history plan surroundings asOf) := sound_history faultless uncancelled unrecorded
  have rebuilds := World.rebuilds plan surroundings asOf world
  have decided := rebuilds.outcome_of_fair fair captured few
  refine ⟨fun attached => ?_, fun before item after error same attached failed => ?_⟩
  · obtain ⟨documents, built⟩ : ∃ documents, (parties.catalog.active asOf).mapM
        (parties.document plan.builder world.ambience.context) = .ok documents := Parties.exists_documents attached
    rw [built] at decided
    generalize result : (world.rebuild plan surroundings asOf).1 = outcome at decided
    cases decided with
    | @built _ report swaps =>
      obtain ⟨isShared, before, after, same, completes⟩ := swaps
      have leads : world.site.Leads (world.history plan surroundings asOf)
          (world.rebuild plan surroundings asOf).2.site := World.leads
      rw [same] at leads
      obtain ⟨exchanged, replaces⟩ := leads.replaces completes
      have stored : Memory.store .empty documents = parties.index plan.builder world.ambience.context
          (parties.catalog.active asOf) := Parties.store_of_documents built
      refine ⟨⟨report.progress, ?_⟩, stored ▸ replaces, Parties.size_index attached⟩
      rw [← exchanged]
  · rw [same, Parties.documents_of_failure attached failed] at decided
    generalize result : (world.rebuild plan surroundings asOf).1 = outcome at decided
    cases decided
    rfl

theorem faultless_rebuild_trial :
    Replaces ((Trial.parties 0).index Trial.plan.builder .empty [.new 1, .new 2]) Trial.memories
      ((Trial.world Trial.memories).rebuild Trial.plan (Trial.parties 0).surroundings .epoch).2.site.generations ∧
    ((Trial.world Trial.memories).rebuild Trial.plan (Trial.parties 2).surroundings .epoch).1 =
      .error (.failed (.extension Trial.refusal)) := by
  have idle : (Trial.world Trial.memories).site.running = false := rfl
  have uncancelled : (Trial.world Trial.memories).ambience.cancelled = false := rfl
  have unrecorded : (Trial.world Trial.memories).site.generations.recordsActive = false := rfl
  have few : 2 * (Catalog.active ⟨[.new 1, .new 2]⟩ .epoch).length ≤ UInt64.size := by decide
  constructor
  · have attached : ∀ item ∈ [Item.new 1, Item.new 2],
        ∃ taken, (Trial.parties 0).attachment Trial.plan.builder item = .ok taken := by
      intro item member
      rcases List.mem_pair.1 member with rfl | rfl
      · exact ⟨false, rfl⟩
      · exact ⟨false, rfl⟩
    exact ((faultless_rebuild (Trial.parties 0).faultless_surroundings idle uncancelled unrecorded few).1 attached).2.1
  · have attached : ∀ item ∈ [Item.new 1],
        ∃ taken, (Trial.parties 2).attachment Trial.plan.builder item = .ok taken := by
      intro item member
      rw [List.mem_singleton.1 member]
      exact ⟨false, rfl⟩
    exact (faultless_rebuild (Trial.parties 2).faultless_surroundings idle uncancelled unrecorded few).2
      [.new 1] (.new 2) [] _ rfl attached rfl

end World
end CatalogIndex
