import CatalogIndex.Proofs.Account
import CatalogIndex.Proofs.Faultless
import CatalogIndex.Proofs.Turns
/-!
The transactions of a rebuild. Each step that is due takes one, and a rebuild that returns has finished every one of
them before it goes on.
-/
namespace CatalogIndex

def Returns {α : Type} (outcome : Except Stop α) : Prop := ∀ text, outcome ≠ .error (.panicked text)

theorem returns_ok {α : Type} (value : α) : Returns (.ok value) := by
  intro text same
  cases same

theorem returns_of_error {α β : Type} {stop : Stop} (returns : Returns (.error stop : Except Stop α)) :
    Returns (.error stop : Except Stop β) := by
  intro text same
  cases same
  exact returns text rfl

namespace Run

variable {α : Type} {plan : Plan} {asOf : Instant} {request : RequestContext} {step page : Nat}
  {known : Option (List Locale)} {history : History}

theorem Finishes.calls {transaction : Transaction} {isError : Bool}
    {outcome : Except Stop (Except TransactionError Unit)} (finishes : Finishes transaction isError history outcome) :
    history.map Sigma.fst = if transaction.rollbackOnly then []
      else [.outside (.finish transaction (if isError then .rollback else .commit))] := by
  cases finishes with
  | left left =>
    unfold Transaction.ending at left
    split at left
    · rename_i kept
      rw [if_pos kept]
      rfl
    · cases left
  | asked asks answer =>
    unfold Transaction.ending at asks
    split at asks
    · cases asks
    · rename_i usual
      cases asks
      rw [if_neg usual]
      rfl

theorem Transacts.turns {work : Run α} {outcome : Except Stop α} {mark : Exchange} (due : mark.isAttempt = true)
    (works : ∀ {working result}, Goes work working result → Works (stepQuestion plan asOf step) working)
    (tells : ∀ {working result}, Goes work working result → Tells working result)
    (returns : Returns outcome) (transacts : Transacts work history outcome) :
    ∃ spans, Turns plan asOf step (mark :: history) spans outcome ∧
      ∀ value, outcome = .ok value → spans.length = 1 := by
  -- Work that succeeds is finished in the same way, whether its commit is granted or not.
  have passed {transaction : Transaction} {working finishing : History} {value : α}
      {ending : Except Stop (Except TransactionError Unit)} (goes : Goes work working (.ok value))
      (finishes : Finishes transaction false finishing ending) {outcome : Except Stop α} :
      ∃ spans, Turns plan asOf step (mark :: begun transaction :: (working ++ finishing)) spans outcome ∧
        spans.length = 1 := by
    cases tells goes with
    | passed smooth =>
      have sound : Span.failed ⟨transaction, working, finishing⟩ = false := any_fails_of_smooth smooth
      have kept : Span.Kept ⟨transaction, working, finishing⟩ (stepQuestion plan asOf step) := by
        refine ⟨works goes, ?_⟩
        rw [sound]
        exact finishes.calls
      exact ⟨_, .single due kept (.passed (List.forall_mem_singleton.2 sound)), rfl⟩
  cases transacts with
  | unbegun lost =>
    cases lost with
    | panicked text => exact absurd rfl (returns text)
    | failed error => exact ⟨[], .refused due, vacuous_of_error _⟩
  | committed goes finishes =>
    obtain ⟨spans, turns, one⟩ := passed goes finishes
    exact ⟨spans, turns, fun _ _ => one⟩
  | uncommitted goes finishes =>
    obtain ⟨spans, turns, one⟩ := passed goes finishes
    exact ⟨spans, turns, fun _ _ => one⟩
  | unfinished goes finishes =>
    obtain ⟨text, rfl⟩ := finishes.panicked_of_error
    exact absurd rfl (returns text)
  | @rolledBack transaction working finishing error result goes finishes =>
    cases tells goes with
    | failed fails =>
      have failed : Span.failed ⟨transaction, working, finishing⟩ = true := any_fails_of_fails fails
      have kept : Span.Kept ⟨transaction, working, finishing⟩ (stepQuestion plan asOf step) := by
        refine ⟨works goes, ?_⟩
        rw [failed]
        exact finishes.calls
      exact ⟨_, .single due kept (.broken (List.forall_mem_nil _) failed rfl), vacuous_of_error _⟩
  | notRolledBack goes finishes =>
    obtain ⟨text, rfl⟩ := finishes.panicked_of_error
    exact absurd rfl (returns text)
  | @dropped transaction working text goes => exact absurd rfl (returns text)

theorem not_isFinalizing_of_pages (pages : ∀ exchange ∈ history, exchange.1.isPaging = true) :
    ∀ exchange ∈ history, exchange.isFinalizing = false := by
  intro exchange member
  have paging := pages exchange member
  obtain ⟨call, reply⟩ := exchange
  cases call <;> first | rfl | cases paging

theorem Transacts.turns_of_page {outcome : Except Stop (Nat × List Locale)}
    (returns : Returns outcome)
    (transacts : Transacts (writePage plan asOf request page known) history outcome) :
    ∃ spans, Turns plan asOf (page + 1) (⟨.isCancelled, false⟩ :: history) spans outcome ∧
      ∀ value, outcome = .ok value → spans.length = 1 := by
  have works {working : History} {result : Except Stop (Nat × List Locale)}
      (goes : Goes (writePage plan asOf request page known) working result) :
      Works (stepQuestion plan asOf (page + 1)) working := works_of_writePage goes
  exact transacts.turns rfl works tells_of_writePage returns

theorem Sweeps.turns {total : UInt64} {progress : Progress} {outcome : Except Stop Progress}
    (returns : Returns outcome) (within : page ≤ pagesPlanned plan total)
    (sweeps : Sweeps plan asOf request total page known progress history outcome) :
    ∃ spans, Turns plan asOf (page + 1) history spans outcome ∧
      ∀ final, outcome = .ok final → final.pages = progress.pages + spans.length ∧
        final.totalPages = progress.totalPages ∧ page + spans.length = pagesPlanned plan total := by
  induction sweeps with
  | @ended page known progress fits beyond =>
    have last : ¬ page < pagesPlanned plan total := fun below => Nat.not_lt.2 beyond (lt_pagesPlanned.1 below)
    refine ⟨[], .idle (List.forall_mem_nil _) rfl, fun final same => ?_⟩
    cases same
    refine ⟨rfl, rfl, ?_⟩
    rw [List.length_nil]
    omega
  | overflown overflows => exact absurd rfl (returns _)
  | cancelled below => exact ⟨[], .idle (List.forall_mem_singleton.2 ⟨rfl, rfl⟩) rfl, vacuous_of_error _⟩
  | @stopped page known progress paging stop below transacts =>
    obtain ⟨spans, turns, -⟩ := transacts.turns_of_page (returns_of_error returns)
    exact ⟨spans, turns.of_error, vacuous_of_error _⟩
  | unheard below transacts => exact absurd rfl (returns _)
  | @next page known progress paging rest written locales outcome below transacts sweeps ih =>
    obtain ⟨spans, turns, one⟩ := transacts.turns_of_page (returns_ok _)
    obtain ⟨more, later, counted⟩ := ih returns (lt_pagesPlanned.2 below)
    have single := one _ rfl
    -- The report is a turn of its own without a transaction, so that the parts can be put together one by one.
    let report : Exchange := ⟨.outside (.report (progress.recordPage written)), .returned ()⟩
    have reporting : Turns plan asOf (page + 1 + spans.length) [report] [] (.ok ()) :=
      .idle (List.forall_mem_singleton.2 ⟨rfl, rfl⟩) rfl
    have paged : ∀ exchange ∈ (⟨.isCancelled, false⟩ :: paging : History), exchange.isFinalizing = false :=
      not_isFinalizing_of_pages (List.forall_mem_cons.2 ⟨rfl, pages_of_page transacts⟩)
    have reported : ∀ exchange ∈ [report], exchange.isFinalizing = false := List.forall_mem_singleton.2 rfl
    have onward : Turns plan asOf (page + 1 + spans.length) rest more outcome := by
      rw [single]
      exact later
    refine ⟨spans ++ more, turns.append paged (reporting.append reported onward), fun final same => ?_⟩
    obtain ⟨pages, totalPages, all⟩ := counted final same
    refine ⟨?_, totalPages, ?_⟩
    · rw [pages, List.length_append, single]
      show progress.pages + 1 + more.length = progress.pages + (1 + more.length)
      omega
    · rw [List.length_append, single]
      omega

def opening (request : RequestContext) (isShared : Bool) : History :=
  entered request ++ ⟨.isShared, isShared⟩ :: clearing.map asked

theorem entered_cleared (request : RequestContext) (isShared : Bool) (history : History) :
    entered request ++ (cleared isShared ++ history) =
      opening request isShared ++ ⟨.enter .paging, ()⟩ :: history := by
  simp only [opening, cleared, List.append_assoc, List.cons_append, List.nil_append]

theorem paging_opening (request : RequestContext) (isShared : Bool) :
    ∀ exchange ∈ opening request isShared, exchange.isFinalizing = false := by
  simp [opening, entered, clearing, asked, granted, Exchange.isFinalizing]

theorem turns_opening (request : RequestContext) (isShared : Bool) :
    Turns plan asOf 0 (opening request isShared) [] (.ok () : Except Stop Unit) := by
  refine .idle ?_ rfl
  simp [opening, entered, clearing, asked, granted, Exchange.isApart, Exchange.isBegin]

theorem Transacts.turns_of_count (plan : Plan) (request : RequestContext) (isShared : Bool)
    {outcome : Except Stop UInt64} (returns : Returns outcome)
    (transacts : Transacts (countWork asOf) history outcome) :
    ∃ spans, Turns plan asOf 0 (entered request ++ (cleared isShared ++ history)) spans outcome ∧
      (∀ exchange ∈ entered request ++ (cleared isShared ++ history), exchange.isFinalizing = false) ∧
      ∀ value, outcome = .ok value → spans.length = 1 := by
  have works {working : History} {result : Except Stop UInt64} (goes : Goes (countWork asOf) working result) :
      Works (stepQuestion plan asOf 0) working := works_of_countWork goes
  have due : Exchange.isAttempt ⟨.enter .paging, ()⟩ = true := rfl
  have counting := not_isFinalizing_of_pages (pages_of_count transacts)
  obtain ⟨spans, turns, one⟩ := transacts.turns due works tells_of_countWork returns
  rw [entered_cleared]
  refine ⟨spans, (turns_opening request isShared).append (paging_opening request isShared) turns, ?_, one⟩
  exact List.forall_mem_append.2 ⟨paging_opening request isShared, List.forall_mem_cons.2 ⟨rfl, counting⟩⟩

theorem Sweeps.turns_of_count {isShared : Bool} {counting : History} {total : UInt64}
    {outcome : Except Stop Progress} (returns : Returns outcome)
    (counts : Transacts (countWork asOf) counting (.ok total))
    (sweeps : Sweeps plan asOf request total 0 none (planned plan asOf total) history outcome) :
    ∃ spans, Turns plan asOf 0 (entered request ++ (cleared isShared ++ (counting ++ history))) spans outcome ∧
      (∀ exchange ∈ entered request ++ (cleared isShared ++ (counting ++ history)), exchange.isFinalizing = false) ∧
      ∀ final, outcome = .ok final →
        spans.length = final.pages + 1 ∧ final.pages = final.totalPages.toNat := by
  obtain ⟨counted, first, opened, one⟩ := counts.turns_of_count plan request isShared (returns_ok _)
  obtain ⟨paged, second, told⟩ := sweeps.turns returns (Nat.zero_le _)
  have single : counted.length = 1 := one _ rfl
  rw [← single] at second
  have parts : entered request ++ (cleared isShared ++ (counting ++ history)) =
      (entered request ++ (cleared isShared ++ counting)) ++ history := by
    simp only [List.append_assoc]
  rw [parts]
  refine ⟨counted ++ paged, first.append opened second, ?_, fun final same => ?_⟩
  · exact List.forall_mem_append.2 ⟨opened, not_isFinalizing_of_pages (sweeps.pages rfl)⟩
  · obtain ⟨pages, totalPages, all⟩ := told final same
    constructor
    · rw [List.length_append, single, pages]
      show 1 + paged.length = 0 + paged.length + 1
      omega
    · rw [pages, totalPages]
      show 0 + paged.length = pagesPlanned plan total
      omega

theorem Fills.turns {isShared : Bool} {progress : Progress} {filling tail : History} {outcome : Except Stop α}
    (fills : Fills plan asOf request isShared filling progress)
    (apart : ∀ exchange ∈ tail, exchange.isApart = true ∧ exchange.isBegin = false)
    (undue : tail.attempts = 0) :
    ∃ spans, Turns plan asOf 0 (entered request ++ (filling ++ tail)) spans outcome ∧
      spans.length = progress.pages + 1 ∧ progress.pages = progress.totalPages.toNat := by
  cases fills with
  | @filled counting sweeping total progress counts sweeps =>
    obtain ⟨spans, turns, paging, told⟩ := sweeps.turns_of_count (returns_ok _) counts
    have last : Turns plan asOf (0 + spans.length) tail [] outcome := .idle apart undue
    rw [← List.append_assoc]
    refine ⟨spans, ?_, told _ rfl⟩
    rw [← List.append_nil spans]
    exact turns.append paging last

theorem apart_of_brokenClear {error : SearchError} {requests : List Request} (broken : BrokenClear error requests) :
    ∀ exchange ∈ requests.map asked, exchange.isApart = true ∧ exchange.isPlain = true := by
  cases broken with
  | delete => exact List.forall_mem_singleton.2 ⟨rfl, rfl⟩
  | commit => exact List.forall_mem_cons.2 ⟨⟨rfl, rfl⟩, List.forall_mem_singleton.2 ⟨rfl, rfl⟩⟩

theorem apart_approved : ∀ exchange ∈ approved, exchange.isApart = true ∧ exchange.isBegin = false := by
  simp [approved, asked, granted, Exchange.isApart, Exchange.isBegin]

theorem Phases.turns {outcome : Except Stop Report} {after : History} (returns : Returns outcome)
    (phases : Phases plan asOf request history outcome)
    (aside : ∀ exchange ∈ after, exchange.isApart = true ∧ exchange.isPlain = true) :
    ∃ spans, Turns plan asOf 0 (entered request ++ (history ++ after)) spans outcome ∧
      ∀ report, outcome = .ok report → spans.length = report.progress.pages + 1 ∧
        report.progress.pages = report.progress.totalPages.toNat := by
  have apart : ∀ exchange ∈ after, exchange.isApart = true ∧ exchange.isBegin = false := fun exchange member =>
    ⟨(aside exchange member).1, (Exchange.of_isPlain (aside exchange member).2).1⟩
  -- Behind the last page no transaction begins, wherever the phases are stopped there.
  have beyond {isShared : Bool} {filling ending : History} {progress : Progress} {outcome : Except Stop Report}
      (fills : Fills plan asOf request isShared filling progress)
      (ends : ∀ exchange ∈ ending, exchange.isApart = true ∧ exchange.isBegin = false)
      (undue : History.attempts (ending ++ after) = 0)
      (told : ∀ report, outcome = .ok report → report.progress = progress) :
      ∃ spans, Turns plan asOf 0 (entered request ++ (filling ++ ending ++ after)) spans outcome ∧
        ∀ report, outcome = .ok report → spans.length = report.progress.pages + 1 ∧
          report.progress.pages = report.progress.totalPages.toNat := by
    rw [List.append_assoc]
    obtain ⟨spans, turns, counted⟩ := fills.turns (List.forall_mem_append.2 ⟨ends, apart⟩) undue
    refine ⟨spans, turns, fun report same => ?_⟩
    rw [told report same]
    exact counted
  cases phases with
  | @uncleared isShared error requests broken =>
    have quiet : ∀ exchange ∈ entered request ++ (⟨.isShared, isShared⟩ :: requests.map asked ++ after),
        exchange.isApart = true ∧ exchange.isPlain = true := by
      refine List.forall_mem_append.2 ⟨?_, List.forall_mem_append.2 ⟨?_, aside⟩⟩
      · simp [entered, Exchange.isApart, Exchange.isPlain, Exchange.isBegin, Exchange.isAttempt, Exchange.isFinalizing]
      · exact List.forall_mem_cons.2 ⟨⟨rfl, rfl⟩, apart_of_brokenClear broken⟩
    refine ⟨[], .idle (fun exchange member => ?_) ?_, vacuous_of_error _⟩
    · obtain ⟨outer, plain⟩ := quiet exchange member
      exact ⟨outer, (Exchange.of_isPlain plain).1⟩
    · exact History.attempts_of_isPlain fun exchange member => (quiet exchange member).2
  | uncounted counts =>
    obtain ⟨spans, turns, paging, -⟩ := counts.turns_of_count plan request _ (returns_of_error returns)
    rw [← List.append_assoc]
    exact ⟨spans, turns.of_error.trail paging aside, vacuous_of_error _⟩
  | unswept counts sweeps =>
    obtain ⟨spans, turns, paging, -⟩ := sweeps.turns_of_count (returns_of_error returns) counts
    rw [← List.append_assoc]
    exact ⟨spans, turns.of_error.trail paging aside, vacuous_of_error _⟩
  | uncompacted fills =>
    refine beyond fills ?_ rfl (vacuous_of_error _)
    simp [asked, refused, Exchange.isApart, Exchange.isBegin]
  | cancelled fills =>
    refine beyond fills ?_ rfl (vacuous_of_error _)
    simp [asked, granted, Exchange.isApart, Exchange.isBegin]
  | unswapped fills =>
    refine beyond fills ?_ rfl (vacuous_of_error _)
    exact List.forall_mem_append.2 ⟨apart_approved, List.forall_mem_singleton.2 ⟨rfl, rfl⟩⟩
  | uncleaned fills broken =>
    refine beyond fills ?_ rfl (vacuous_of_error _)
    refine List.forall_mem_append.2 ⟨apart_approved, List.forall_mem_cons.2 ⟨⟨rfl, rfl⟩, ?_⟩⟩
    refine List.forall_mem_cons.2 ⟨⟨rfl, rfl⟩, fun exchange member => ?_⟩
    obtain ⟨outer, plain⟩ := apart_of_brokenClear broken exchange member
    exact ⟨outer, (Exchange.of_isPlain plain).1⟩
  | @finished isShared filling progress swapped fills =>
    refine beyond fills ?_ rfl fun report same => ?_
    · refine List.forall_mem_append.2 ⟨apart_approved, List.forall_mem_cons.2 ⟨⟨rfl, rfl⟩, ?_⟩⟩
      refine List.forall_mem_cons.2 ⟨⟨rfl, rfl⟩, ?_⟩
      cases isShared with
      | true => exact List.forall_mem_nil _
      | false => simp [clearing, asked, granted, Exchange.isApart, Exchange.isBegin]
    · cases same
      rfl

theorem Rebuilds.turns {outcome : Except Stop Report} (returns : Returns outcome)
    (rebuilds : Rebuilds plan asOf history outcome) :
    ∃ spans, Turns plan asOf 0 history spans outcome ∧
      ∀ report, outcome = .ok report → spans.length = report.progress.pages + 1 ∧
        report.progress.pages = report.progress.totalPages.toNat := by
  cases rebuilds with
  | rejected => exact ⟨[], .idle (List.forall_mem_singleton.2 ⟨rfl, rfl⟩) rfl, vacuous_of_error _⟩
  | panicked phases => exact absurd rfl (returns _)
  | failed phases =>
    refine phases.turns returns ?_
    simp [Exchange.isApart, Exchange.isPlain, Exchange.isBegin, Exchange.isAttempt, Exchange.isFinalizing]
  | @completed request middle report answer phases =>
    cases answer with
    | panicked text => exact absurd rfl (returns text)
    | returned reply =>
      have closing : ∀ exchange ∈ ([⟨.restore request, ()⟩, ⟨.enter .done, ()⟩,
          ⟨.outside (.report report.progress.complete), .returned reply⟩, ⟨.release, ()⟩] : History),
          exchange.isApart = true ∧ exchange.isPlain = true := by
        simp [Exchange.isApart, Exchange.isPlain, Exchange.isBegin, Exchange.isAttempt, Exchange.isFinalizing]
      obtain ⟨spans, turns, told⟩ := phases.turns (returns_ok _) closing
      have counted := told report rfl
      refine ⟨spans, turns.of_ok, fun result same => ?_⟩
      cases same
      exact counted

end Run

namespace World

variable {γ σ : Type} [Engine γ]

/-- A rebuild that returns takes its transactions one after the other: for the count and for each page that it
reaches one, in order, begun for reading and then committed or rolled back as its work has gone, or left alone if it
is rollback-only. Only the last one may be rolled back, and success takes one more than there are pages. -/
theorem transactions_in_turn {plan : Plan} {surroundings : Surroundings σ} {asOf : Instant} {world : World γ σ}
    (returns : Returns (world.rebuild plan surroundings asOf).1) :
    ∃ spans,
      Turns plan asOf 0 (world.history plan surroundings asOf) spans (world.rebuild plan surroundings asOf).1 ∧
      ((world.history plan surroundings asOf).rollbacks = [] ∨ ∃ last, spans.getLast? = some last ∧
        (world.history plan surroundings asOf).rollbacks = [last.transaction]) ∧
      ∀ report, (world.rebuild plan surroundings asOf).1 = .ok report →
        (world.history plan surroundings asOf).begins = report.progress.pages + 1 ∧
          spans.length = report.progress.pages + 1 ∧ report.progress.pages = report.progress.totalPages.toNat := by
  have rebuilds := World.rebuilds plan surroundings asOf world
  obtain ⟨spans, turns, told⟩ := rebuilds.turns returns
  refine ⟨spans, turns, ?_, fun report same => ?_⟩
  · rw [turns.laid.rollbacks]
    rcases turns.ended.undone with none | ⟨last, final, undone⟩
    · rw [none]
      exact .inl rfl
    · rw [undone]
      exact .inr ⟨last, final, rfl⟩
  · obtain ⟨count, pages⟩ := told report same
    have ended := turns.ended
    rw [same] at ended
    exact ⟨ended.of_ok.1.trans count, count, pages⟩

theorem transactions_in_turn_trial :
    Returns ((Trial.world (Trial.refusing 2)).rebuild Trial.plan (Trial.parties 0).surroundings .epoch).1 ∧
    ((Trial.world (Trial.refusing 2)).history Trial.plan (Trial.parties 0).surroundings .epoch).begins = 3 ∧
    ((Trial.world (Trial.refusing 2)).history Trial.plan (Trial.parties 0).surroundings .epoch).rollbacks =
      [⟨0, "rebuildIndex", false⟩] ∧
    ∃ spans, Turns Trial.plan .epoch 0
      ((Trial.world (Trial.refusing 2)).history Trial.plan (Trial.parties 0).surroundings .epoch) spans
      ((Trial.world (Trial.refusing 2)).rebuild Trial.plan (Trial.parties 0).surroundings .epoch).1 := by
  have returns :
      Returns ((Trial.world (Trial.refusing 2)).rebuild Trial.plan (Trial.parties 0).surroundings .epoch).1 := by
    intro text same
    cases same
  refine ⟨returns, rfl, rfl, ?_⟩
  obtain ⟨spans, turns, -⟩ := transactions_in_turn returns
  exact ⟨spans, turns⟩

end World
end CatalogIndex
