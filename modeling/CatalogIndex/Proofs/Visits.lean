import CatalogIndex.Proofs.FirstFailure
import CatalogIndex.Proofs.Transactions
/-!
Visits to pages. A visit begins when a check for a cancellation is passed, and goes on until the transaction of the page
has come to an end of its own. Whatever is called for a page is called on a visit.
-/
namespace CatalogIndex

/-- Whether an exchange is made for a page, as it seems by itself: a check is passed, a transaction begins, or something
is read, built or added. -/
def Exchange.isForPage : Exchange → Bool
  | ⟨.isCancelled, false⟩ => true
  | ⟨.outside (.begin _), _⟩ => true
  | ⟨.outside (.page ..), _⟩ => true
  | ⟨.outside .descriptors, _⟩ => true
  | ⟨.outside .locales, _⟩ => true
  | ⟨.outside (.handler _), _⟩ => true
  | ⟨.perform (.add _), _⟩ => true
  | _ => false

/-- Exchanges that are made for no page though they seem so: the count begins a transaction, and a check follows upon
the compaction. -/
inductive Elsewhere : History → Exchange → Prop where
  | count {before : History} (definition : TransactionDefinition)
      (answer : Answer (Except TransactionError Transaction)) :
      Elsewhere (before ++ [⟨.enter .paging, ()⟩]) ⟨.outside (.begin definition), answer⟩
  | compaction {before : History} (reply : Except SearchError Unit) :
      Elsewhere (before ++ [asked ⟨.optimize, reply⟩]) ⟨.isCancelled, false⟩

/-- A visit to a page and what comes after it: the page is reported if its transaction has succeeded, and otherwise it
has stopped the rebuild. -/
inductive Visit {α : Type} (plan : Plan) (asOf : Instant) (request : RequestContext) (outcome : Except Stop α) :
    History → History → Prop where
  | written {page : Nat} {known : Option (List Locale)} {paging after : History} {value : Nat × List Locale}
      (progress : Progress) (answer : Answer Unit)
      (transacts : Run.Transacts (Run.writePage plan asOf request page known) paging (.ok value)) :
      Visit plan asOf request outcome paging (⟨.outside (.report progress), answer⟩ :: after)
  | stopped {page : Nat} {known : Option (List Locale)} {paging after : History} {stop : Stop}
      (transacts : Run.Transacts (Run.writePage plan asOf request page known) paging (.error stop))
      (ends : outcome = .error stop) (closing : ∀ later ∈ after, later.1.isClosing = true) :
      Visit plan asOf request outcome paging after

/-- Whether the exchange after some part of a history is made on a visit, which begins after a first part of it. -/
def OnVisit {α : Type} (plan : Plan) (asOf : Instant) (request : RequestContext) (outcome : Except Stop α)
    (history before first : History) : Prop :=
  ∃ paging after, history = first ++ ⟨.isCancelled, false⟩ :: (paging ++ after) ∧ first.length ≤ before.length ∧
    before.length ≤ first.length + paging.length ∧ Visit plan asOf request outcome paging after

section

variable {α β : Type} {plan : Plan} {asOf : Instant} {request : RequestContext} {history before after : History}
  {exchange other : Exchange}

theorem ne_of_forPage (forPage : exchange.isForPage = true) (silent : other.isForPage = false) : exchange ≠ other := by
  rintro rfl
  rw [silent] at forPage
  cases forPage

theorem not_mem_of_forPage (forPage : exchange.isForPage = true) (silent : ∀ other ∈ history, other.isForPage = false) :
    exchange ∉ history :=
  fun member => ne_of_forPage forPage (silent exchange member) rfl

theorem OnVisit.extend {outcome : Except Stop α} {result : Except Stop β} {first : History}
    (front back : History) (onVisit : OnVisit plan asOf request outcome history before first)
    (ends : ∀ stop, outcome = .error stop → result = .error stop ∧ ∀ later ∈ back, later.1.isClosing = true) :
    OnVisit plan asOf request result (front ++ (history ++ back)) (front ++ before) (front ++ first) := by
  obtain ⟨paging, after, rfl, begun, within, visit⟩ := onVisit
  refine ⟨paging, after ++ back, ?_, ?_, ?_, ?_⟩
  · simp only [List.append_assoc, List.cons_append]
  · rw [List.length_append, List.length_append]
    omega
  · rw [List.length_append, List.length_append]
    omega
  · cases visit with
    | written progress answer transacts => exact .written progress answer transacts
    | stopped transacts stops closing =>
      obtain ⟨same, closes⟩ := ends _ stops
      exact .stopped transacts same (List.forall_mem_append.2 ⟨closing, closes⟩)

end

namespace Run

variable {plan : Plan} {asOf : Instant} {request : RequestContext} {total : UInt64} {page : Nat}
  {known : Option (List Locale)} {progress : Progress} {history before after : History} {exchange : Exchange}

theorem Sweeps.onVisit {outcome : Except Stop Progress}
    (sweeps : Sweeps plan asOf request total page known progress history outcome)
    (split : history = before ++ exchange :: after) (forPage : exchange.isForPage = true) :
    ∃ first, OnVisit plan asOf request outcome history before first := by
  -- A page takes the exchanges from its check to the end of its transaction.
  have visited {paging rest before after : History} {outcome : Except Stop Progress}
      (split : ⟨.isCancelled, false⟩ :: paging = before ++ exchange :: after)
      (visit : Visit plan asOf request outcome paging rest) :
      OnVisit plan asOf request outcome (⟨.isCancelled, false⟩ :: (paging ++ rest)) before [] := by
    refine ⟨paging, rest, rfl, Nat.zero_le _, ?_, visit⟩
    have lengths := congrArg List.length split
    rw [List.length_cons, List.length_append, List.length_cons] at lengths
    rw [List.length_nil]
    omega
  induction sweeps generalizing before with
  | ended => exact absurd (History.mem_of_split split) List.not_mem_nil
  | overflown => exact absurd (History.mem_of_split split) List.not_mem_nil
  | cancelled => exact absurd (List.mem_singleton.1 (History.mem_of_split split)) (ne_of_forPage forPage rfl)
  | @stopped page known progress paging stop below transacts =>
    have visit := visited split (.stopped transacts rfl (List.forall_mem_nil _))
    rw [List.append_nil] at visit
    exact ⟨[], visit⟩
  | @unheard page known progress paging written locales text below transacts =>
    have parts : (⟨.isCancelled, false⟩ :: paging) ++
        [⟨.outside (.report (progress.recordPage written)), .panicked text⟩] = before ++ exchange :: after := split
    rcases History.cut parts with ⟨rest, inside, -⟩ | ⟨middle, -, beyond⟩
    · exact ⟨[], visited inside (.written _ _ transacts)⟩
    · exact absurd (List.mem_singleton.1 (History.mem_of_split beyond)) (ne_of_forPage forPage rfl)
  | @next page known progress paging rest written locales outcome below transacts sweeps ih =>
    have parts : (⟨.isCancelled, false⟩ :: paging) ++
        ⟨.outside (.report (progress.recordPage written)), .returned ()⟩ :: rest = before ++ exchange :: after := split
    rcases History.cut parts with ⟨rest, inside, -⟩ | ⟨middle, rfl, beyond⟩
    · exact ⟨[], visited inside (.written _ _ transacts)⟩
    · obtain ⟨last, rfl, onward⟩ := History.cut_of_ne_head beyond (ne_of_forPage forPage rfl)
      obtain ⟨first, visit⟩ := ih onward
      have longer := visit.extend (⟨.isCancelled, false⟩ ::
        (paging ++ [⟨.outside (.report (progress.recordPage written)), .returned ()⟩])) []
        fun stop same => ⟨same, List.forall_mem_nil _⟩
      simp only [List.cons_append, List.append_assoc, List.nil_append, List.append_nil] at longer
      exact ⟨_, longer⟩

theorem Transacts.parts_of_count {outcome : Except Stop UInt64} (counts : Transacts (countWork asOf) history outcome) :
    ∃ answer rest, history = ⟨.outside (.begin (.forReading transactionName)), answer⟩ :: rest ∧
      ∀ other ∈ rest, other.isForPage = false := by
  rcases counts.opens with ⟨answer, stop, rfl, -⟩ | ⟨transaction, working, result, finishing, works, rfl, ends, -⟩
  · exact ⟨answer, [], rfl, List.forall_mem_nil _⟩
  · obtain ⟨answer, rfl, -⟩ := goes_countWork works
    refine ⟨_, _, rfl, List.forall_mem_append.2 ⟨List.forall_mem_singleton.2 rfl, ?_⟩⟩
    rcases ends with rfl | ⟨isError, ending, finishes⟩
    · exact List.forall_mem_nil _
    · cases finishes with
      | left => exact List.forall_mem_nil _
      | asked => exact List.forall_mem_singleton.2 rfl

theorem Transacts.cut_of_count {counting rest : History} {isShared : Bool} {outcome : Except Stop UInt64}
    (counts : Transacts (countWork asOf) counting outcome)
    (split : entered request ++ (cleared isShared ++ (counting ++ rest)) = before ++ exchange :: after)
    (forPage : exchange.isForPage = true) :
    Elsewhere before exchange ∨ ∃ middle, before = entered request ++ (cleared isShared ++ (counting ++ middle)) ∧
      rest = middle ++ exchange :: after := by
  obtain ⟨answer, finishing, rfl, silent⟩ := counts.parts_of_count
  have quiet : ∀ other ∈ opening request isShared, other.isForPage = false := by
    simp [opening, entered, clearing, asked, granted, Exchange.isForPage]
  rw [entered_cleared] at split
  obtain ⟨first, rfl, entering⟩ := History.cut_of_not_mem_left split (not_mem_of_forPage forPage quiet)
  obtain ⟨second, rfl, counting⟩ := History.cut_of_ne_head entering (ne_of_forPage forPage rfl)
  cases second with
  | nil =>
    cases counting
    exact .inl (.count _ _)
  | cons head third =>
    obtain ⟨rfl, onward⟩ := List.cons.inj counting
    obtain ⟨middle, rfl, beyond⟩ := History.cut_of_not_mem_left onward (not_mem_of_forPage forPage silent)
    refine .inr ⟨middle, ?_, beyond⟩
    rw [entered_cleared]
    rfl

theorem Sweeps.cut {counting sweeping back : History} {isShared : Bool} {swept : Except Stop Progress}
    {outcome : Except Stop Report} (counts : Transacts (countWork asOf) counting (.ok total))
    (sweeps : Sweeps plan asOf request total 0 none (planned plan asOf total) sweeping swept)
    (ends : ∀ stop, swept = .error stop → outcome = .error stop ∧ ∀ later ∈ back, later.1.isClosing = true)
    (split : entered request ++ (cleared isShared ++ (counting ++ (sweeping ++ back))) = before ++ exchange :: after)
    (forPage : exchange.isForPage = true) :
    Elsewhere before exchange ∨
      (∃ first, OnVisit plan asOf request outcome
        (entered request ++ (cleared isShared ++ (counting ++ (sweeping ++ back)))) before first) ∨
      ∃ front middle, before = front ++ middle ∧ back = middle ++ exchange :: after := by
  rcases counts.cut_of_count split forPage with elsewhere | ⟨middle, rfl, paged⟩
  · exact .inl elsewhere
  · rcases History.cut paged with ⟨rest, inside, -⟩ | ⟨last, rfl, beyond⟩
    · obtain ⟨first, visit⟩ := sweeps.onVisit inside forPage
      have longer := visit.extend (entered request ++ (cleared isShared ++ counting)) back ends
      simp only [List.append_assoc] at longer
      exact .inr (.inl ⟨_, longer⟩)
    · refine .inr (.inr ⟨entered request ++ (cleared isShared ++ (counting ++ sweeping)), last, ?_, beyond⟩)
      simp only [List.append_assoc]

theorem silent_of_brokenClear {error : SearchError} {requests : List Request} (broken : BrokenClear error requests) :
    ∀ other ∈ requests.map asked, other.isForPage = false := by
  cases broken <;> simp [asked, granted, refused, Exchange.isForPage]

theorem elsewhere_of_approved {front middle ending : History} (silent : ∀ other ∈ ending, other.isForPage = false)
    (split : approved ++ ending = middle ++ exchange :: after) (forPage : exchange.isForPage = true) :
    Elsewhere (front ++ middle) exchange := by
  obtain ⟨first, rfl, compacting⟩ := History.cut_of_ne_head split (ne_of_forPage forPage rfl)
  obtain ⟨second, rfl, checking⟩ := History.cut_of_ne_head compacting (ne_of_forPage forPage rfl)
  cases second with
  | nil =>
    cases checking
    rw [List.append_cons]
    exact .compaction _
  | cons head third =>
    obtain ⟨rfl, onward⟩ := List.cons.inj checking
    obtain ⟨last, rfl, beyond⟩ := History.cut_of_ne_head onward (ne_of_forPage forPage rfl)
    exact absurd (History.mem_of_split beyond) (not_mem_of_forPage forPage silent)

theorem Phases.onVisit {middle back : History} {reached outcome : Except Stop Report}
    (phases : Phases plan asOf request middle reached) (silent : ∀ other ∈ back, other.isForPage = false)
    (ends : ∀ stop, reached = .error stop → outcome = .error stop ∧ ∀ later ∈ back, later.1.isClosing = true)
    (split : entered request ++ (middle ++ back) = before ++ exchange :: after) (forPage : exchange.isForPage = true) :
    Elsewhere before exchange ∨
      ∃ first, OnVisit plan asOf request outcome (entered request ++ (middle ++ back)) before first := by
  -- An exchange stands in front of the end of the last page or behind it; `last` is for the latter.
  have filled {isShared : Bool} {filling ending : History} {progress : Progress}
      (fills : Fills plan asOf request isShared filling progress)
      (last : ∀ {front rest}, ending ++ back = rest ++ exchange :: after → Elsewhere (front ++ rest) exchange)
      (split : entered request ++ (filling ++ ending ++ back) = before ++ exchange :: after) :
      Elsewhere before exchange ∨
        ∃ first, OnVisit plan asOf request outcome (entered request ++ (filling ++ ending ++ back)) before first := by
    cases fills with
    | filled counts sweeps =>
      simp only [List.append_assoc] at split ⊢
      rcases sweeps.cut counts (fun stop impossible => by cases impossible) split forPage with
        elsewhere | onVisit | ⟨front, rest, rfl, beyond⟩
      · exact .inl elsewhere
      · exact .inr onVisit
      · exact .inl (last beyond)
  have nowhere {ending front rest : History} (quiet : ∀ other ∈ ending, other.isForPage = false)
      (beyond : ending ++ back = rest ++ exchange :: after) : Elsewhere (front ++ rest) exchange :=
    absurd (History.mem_of_split beyond) (not_mem_of_forPage forPage (List.forall_mem_append.2 ⟨quiet, silent⟩))
  -- Behind the compaction there is a check that looks like one for a page.
  have approving {ending front rest : History} (quiet : ∀ other ∈ ending, other.isForPage = false)
      (beyond : approved ++ ending ++ back = rest ++ exchange :: after) : Elsewhere (front ++ rest) exchange := by
    rw [List.append_assoc] at beyond
    exact elsewhere_of_approved (List.forall_mem_append.2 ⟨quiet, silent⟩) beyond forPage
  cases phases with
  | @uncleared isShared error requests broken =>
    have opening : ∀ other ∈ entered request, other.isForPage = false := by simp [entered, Exchange.isForPage]
    have clears : ∀ other ∈ (⟨.isShared, isShared⟩ :: requests.map asked : History), other.isForPage = false :=
      List.forall_mem_cons.2 ⟨rfl, silent_of_brokenClear broken⟩
    have quiet := List.forall_mem_append.2 ⟨opening, List.forall_mem_append.2 ⟨clears, silent⟩⟩
    exact absurd (History.mem_of_split split) (not_mem_of_forPage forPage quiet)
  | uncounted counts =>
    rw [List.append_assoc] at split ⊢
    rcases counts.cut_of_count split forPage with elsewhere | ⟨middle, -, beyond⟩
    · exact .inl elsewhere
    · exact absurd (History.mem_of_split beyond) (not_mem_of_forPage forPage silent)
  | unswept counts sweeps =>
    simp only [List.append_assoc] at split ⊢
    rcases sweeps.cut counts (fun stop same => ends stop (by cases same; rfl)) split forPage with
      elsewhere | onVisit | ⟨front, rest, -, beyond⟩
    · exact .inl elsewhere
    · exact .inr onVisit
    · exact absurd (History.mem_of_split beyond) (not_mem_of_forPage forPage silent)
  | uncompacted fills => exact filled fills (nowhere (by simp [asked, refused, Exchange.isForPage])) split
  | cancelled fills => exact filled fills (nowhere (by simp [asked, granted, Exchange.isForPage])) split
  | unswapped fills => exact filled fills (approving (List.forall_mem_singleton.2 rfl)) split
  | uncleaned fills broken =>
    refine filled fills (approving ?_) split
    exact List.forall_mem_cons.2 ⟨rfl, List.forall_mem_cons.2 ⟨rfl, silent_of_brokenClear broken⟩⟩
  | @finished isShared filling progress swapped fills =>
    refine filled fills (approving ?_) split
    cases isShared <;> simp [clearing, asked, granted, Exchange.isForPage]

theorem Rebuilds.onVisit {outcome : Except Stop Report} (rebuilds : Rebuilds plan asOf history outcome)
    (split : history = before ++ exchange :: after) (forPage : exchange.isForPage = true) :
    Elsewhere before exchange ∨ ∃ request first, OnVisit plan asOf request outcome history before first := by
  have named {request : RequestContext}
      (visits : Elsewhere before exchange ∨ ∃ first, OnVisit plan asOf request outcome history before first) :
      Elsewhere before exchange ∨ ∃ request first, OnVisit plan asOf request outcome history before first :=
    visits.imp_right fun onVisit => ⟨request, onVisit⟩
  cases rebuilds with
  | rejected => exact absurd (List.mem_singleton.1 (History.mem_of_split split)) (ne_of_forPage forPage rfl)
  | panicked phases =>
    refine named (phases.onVisit (by simp [Exchange.isForPage]) (fun stop same => ?_) split forPage)
    cases same
    exact ⟨rfl, by simp [Call.isClosing]⟩
  | failed phases =>
    refine named (phases.onVisit (by simp [Exchange.isForPage]) (fun stop same => ?_) split forPage)
    cases same
    exact ⟨rfl, by simp [Call.isClosing]⟩
  | completed answer phases =>
    refine named (phases.onVisit (by simp [Exchange.isForPage]) (fun stop impossible => ?_) split forPage)
    cases impossible

end Run
end CatalogIndex
