import CatalogIndex.Proofs.Backing
import CatalogIndex.Proofs.Transactions
/-!
The reports of a rebuild against its index. What a sweep has gone through when it reports a page are pages written
whole, each in a finished transaction of its own, so the figures of a report are those of the documents that readers
find at that moment. Only a rebuild that comes to its end reports that it is complete.
-/
namespace CatalogIndex

/-- The figures of some pages, with the totals entered before the first one. -/
def Progress.figures (plan : Plan) (asOf : Instant) (total : UInt64) (pages : List BuiltPage) : Progress where
  asOf := some asOf
  totalItems := total
  totalPages := pageCount total plan.config.pageSize
  pages := pages.length
  documents := (pages.flatMap BuiltPage.items).length
  completed := false

theorem Progress.figures_concat (plan : Plan) (asOf : Instant) (total : UInt64) (pages : List BuiltPage)
    (page : BuiltPage) :
    figures plan asOf total (pages ++ [page]) = (figures plan asOf total pages).recordPage page.items.length := by
  simp [figures, recordPage]

def Exchange.reported? : Exchange → Option Progress
  | ⟨.outside (.report progress), _⟩ => some progress
  | _ => none

theorem Exchange.of_reported? {exchange : Exchange} {progress : Progress}
    (same : exchange.reported? = some progress) : ∃ answer, exchange = ⟨.outside (.report progress), answer⟩ := by
  unfold reported? at same
  split at same
  · cases same
    exact ⟨_, rfl⟩
  · cases same

theorem Exchange.reported?_of_not_isReport {exchange : Exchange} (quiet : exchange.isReport = false) :
    exchange.reported? = none := by
  unfold reported?
  split
  · cases quiet
  · rfl

namespace History

def reported (history : History) : List Progress := history.filterMap Exchange.reported?

def totals (history : History) : List UInt64 := history.filterMap Exchange.total?

variable {before after : History}

theorem totals_append : totals (before ++ after) = totals before ++ totals after := List.filterMap_append

theorem reported_append : reported (before ++ after) = reported before ++ reported after := List.filterMap_append

theorem not_isReport_of_silent {history : History} (silent : history.reports = 0) :
    ∀ exchange ∈ history, exchange.isReport = false := by
  intro exchange member
  exact Bool.eq_false_iff.2 (List.countP_eq_zero.1 silent exchange member)

theorem forall_reported {history : History} {property : Progress → Prop}
    (every : ∀ before progress answer after, history = before ++ ⟨.outside (.report progress), answer⟩ :: after →
      property progress) : ∀ progress ∈ history.reported, property progress := by
  intro progress member
  obtain ⟨exchange, inside, same⟩ := List.mem_filterMap.1 member
  obtain ⟨answer, rfl⟩ := Exchange.of_reported? same
  obtain ⟨before, after, split⟩ := List.append_of_mem inside
  exact every before progress answer after split

theorem reported_of_silent {history : History} (silent : history.reports = 0) : history.reported = [] :=
  List.filterMap_eq_nil_iff.2 fun exchange member =>
    Exchange.reported?_of_not_isReport (not_isReport_of_silent silent exchange member)

theorem not_mem_of_silent {history : History} {progress : Progress} {answer : Answer Unit}
    (silent : history.reports = 0) : ⟨.outside (.report progress), answer⟩ ∉ history := by
  intro member
  cases not_isReport_of_silent silent _ member

end History

/-- Pages written whole, one transaction each, with nothing counted and no commit refused. -/
structure Paged (plan : Plan) (asOf : Instant) (journal : Journal) (step : Nat) (history : History)
    (pages : List BuiltPage) : Prop where
  sweeping : Sweeping plan journal history pages [] []
  turns : ∃ spans, Turns plan asOf step history spans (.ok () : Except Stop Unit) ∧ spans.length = pages.length
  committed : history.commitRefused = false
  untold : history.totals = []
  paging : ∀ exchange ∈ history, exchange.1.isPaging = true

theorem Paged.append {plan : Plan} {asOf : Instant} {journal : Journal} {step : Nat} {before after : History}
    {pages more : List BuiltPage} (first : Paged plan asOf journal step before pages)
    (second : Paged plan asOf (journal.notes before) (step + pages.length) after more) :
    Paged plan asOf journal step (before ++ after) (pages ++ more) := by
  obtain ⟨spans, turns, count⟩ := first.turns
  obtain ⟨further, later, number⟩ := second.turns
  rw [← count] at later
  refine ⟨first.sweeping.append second.sweeping, ⟨spans ++ further, ?_, ?_⟩, ?_, ?_, ?_⟩
  · exact turns.append (Run.not_isFinalizing_of_pages first.paging) later
  · rw [List.length_append, List.length_append, count, number]
  · rw [History.commitRefused_append, first.committed, second.committed]
    rfl
  · rw [History.totals_append, first.untold, second.untold]
    rfl
  · exact List.forall_mem_append.2 ⟨first.paging, second.paging⟩

namespace Run

variable {plan : Plan} {asOf : Instant} {request : RequestContext} {total : UInt64} {page : Nat}
  {known : Option (List Locale)} {journal : Journal} {history before after : History} {progress told : Progress}
  {answer : Answer Unit}

theorem paged_report (step : Nat) (progress : Progress) (answer : Answer Unit) :
    Paged plan asOf journal step [⟨.outside (.report progress), answer⟩] [] where
  sweeping := .idle (.report progress answer)
  turns := ⟨[], .idle (List.forall_mem_singleton.2 ⟨rfl, rfl⟩) rfl, rfl⟩
  committed := rfl
  untold := rfl
  paging := List.forall_mem_singleton.2 rfl

theorem frames_untold : Frames fun exchange => exchange.total? = none :=
  ⟨fun _ _ => rfl, fun _ _ _ => rfl, fun _ => rfl, fun _ _ _ => rfl⟩

theorem untold_of_writePage {outcome : Except Stop (Nat × List Locale)}
    (goes : Goes (writePage plan asOf request page known) history outcome) :
    ∀ exchange ∈ history, exchange.total? = none := by
  obtain ⟨answer, handling⟩ := works_of_writePage goes
  refine List.forall_mem_cons.2 ⟨rfl, fun exchange member => ?_⟩
  have handles := handling exchange member
  unfold Exchange.total?
  split
  · cases handles
  · rfl

theorem Transacts.paged {written : Nat} {locales : List Locale} (captured : journal.request = request)
    (reads : journal.locales = known)
    (transacts : Transacts (writePage plan asOf request page known) history (.ok (written, locales))) :
    ∃ first, Paged plan asOf journal (page + 1) (⟨.isCancelled, false⟩ :: history) [first] ∧
      first.items.length = written ∧ history.reports = 0 ∧ (journal.notes history).request = request ∧
      (journal.notes history).locales = some locales := by
  obtain ⟨⟨first, sweeping, size⟩, reports, committed, same, located⟩ := transacts.sweeping_of_ok captured reads
  obtain ⟨spans, turns, one⟩ := transacts.turns_of_page (returns_ok _)
  have untold : history.totals = [] :=
    List.filterMap_eq_nil_iff.2 (transacts.every frames_untold untold_of_writePage)
  refine ⟨first, ⟨.cons (.isCancelled false) sweeping, ⟨spans, turns.of_ok, one _ rfl⟩, ?_, ?_, ?_⟩, size, reports,
    same, located⟩
  · exact committed
  · exact untold
  · exact List.forall_mem_cons.2 ⟨rfl, pages_of_page transacts⟩

/-- What a sweep has gone through when it reports a page. -/
inductive Reaches (plan : Plan) (asOf : Instant) (request : RequestContext) :
    Nat → Option (List Locale) → Progress → History → Progress → Prop where
  | here {page : Nat} {known : Option (List Locale)} {progress : Progress} {paging : History} {written : Nat}
      {locales : List Locale}
      (transacts : Transacts (writePage plan asOf request page known) paging (.ok (written, locales))) :
      Reaches plan asOf request page known progress (⟨.isCancelled, false⟩ :: paging) (progress.recordPage written)
  | later {page : Nat} {known : Option (List Locale)} {progress told : Progress} {paging rest : History}
      {written : Nat} {locales : List Locale}
      (transacts : Transacts (writePage plan asOf request page known) paging (.ok (written, locales)))
      (reaches : Reaches plan asOf request (page + 1) (some locales) (progress.recordPage written) rest told) :
      Reaches plan asOf request page known progress
        (⟨.isCancelled, false⟩ :: (paging ++ ⟨.outside (.report (progress.recordPage written)), .returned ()⟩ :: rest))
        told

theorem Transacts.reports_of_page {outcome : Except Stop (Nat × List Locale)}
    (transacts : Transacts (writePage plan asOf request page known) history outcome) : history.reports = 0 := by
  cases outcome with
  | ok value =>
    have captured : (⟨request, known, []⟩ : Journal).request = request := rfl
    exact (transacts.sweeping_of_ok captured rfl).2.1
  | error stop =>
    have captured : (⟨request, known, []⟩ : Journal).request = request := rfl
    obtain ⟨pages, rest, tail, sweeping, breaks, short, reports, counted⟩ := transacts.pageStops captured rfl
    exact reports

theorem Sweeps.reaches {outcome : Except Stop Progress}
    (sweeps : Sweeps plan asOf request total page known progress history outcome)
    (split : history = before ++ ⟨.outside (.report told), answer⟩ :: after) :
    Reaches plan asOf request page known progress before told := by
  -- No transaction reports anything, so a report comes behind the transaction of its page.
  induction sweeps generalizing before with
  | ended => exact absurd (History.mem_of_split split) (History.not_mem_of_silent rfl)
  | overflown => exact absurd (History.mem_of_split split) (History.not_mem_of_silent rfl)
  | cancelled => exact absurd (History.mem_of_split split) (History.not_mem_of_silent rfl)
  | stopped below transacts =>
    exact absurd (History.mem_of_split split) (History.not_mem_of_silent transacts.reports_of_page)
  | @unheard page known progress paging written locales text below transacts =>
    have silent : History.reports (⟨.isCancelled, false⟩ :: paging) = 0 := transacts.reports_of_page
    obtain ⟨middle, rfl, last⟩ := History.cut_of_not_mem_left split (History.not_mem_of_silent silent)
    cases middle with
    | nil =>
      cases last
      rw [List.append_nil]
      exact .here transacts
    | cons exchange middle => simp at last
  | @next page known progress paging rest written locales outcome below transacts sweeps ih =>
    have silent : History.reports (⟨.isCancelled, false⟩ :: paging) = 0 := transacts.reports_of_page
    obtain ⟨middle, rfl, last⟩ := History.cut_of_not_mem_left split (History.not_mem_of_silent silent)
    cases middle with
    | nil =>
      cases last
      rw [List.append_nil]
      exact .here transacts
    | cons exchange middle =>
      obtain ⟨rfl, onward⟩ := List.cons.inj last
      exact .later transacts (ih onward)

/-- When a page is reported, it and the pages before it have been written whole, and they are what is recorded. -/
theorem Reaches.paged {done : List BuiltPage} (captured : journal.request = request) (reads : journal.locales = known)
    (recorded : progress = .figures plan asOf total done)
    (reaches : Reaches plan asOf request page known progress history told) :
    ∃ pages, Paged plan asOf journal (page + 1) history pages ∧ pages.length = history.reports + 1 ∧
      told = .figures plan asOf total (done ++ pages) := by
  induction reaches generalizing journal done with
  | here transacts =>
    obtain ⟨first, paged, size, reports, -, -⟩ := transacts.paged captured reads
    refine ⟨[first], paged, ?_, ?_⟩
    · simp [Exchange.isReport, reports]
    · rw [Progress.figures_concat, size, recorded]
  | @later page known progress told paging rest written locales transacts reaches ih =>
    obtain ⟨first, paged, size, reports, same, located⟩ := transacts.paged captured reads
    have entered : progress.recordPage written = .figures plan asOf total (done ++ [first]) := by
      rw [Progress.figures_concat, size, recorded]
    obtain ⟨pages, later, count, figures⟩ := ih same located entered
    have reporting : Paged plan asOf (journal.notes (⟨.isCancelled, false⟩ :: paging)) (page + 1 + 1)
        [⟨.outside (.report (progress.recordPage written)), .returned ()⟩] [] := paged_report _ _ _
    refine ⟨first :: pages, paged.append (reporting.append later), ?_, ?_⟩
    · rw [List.length_cons, count]
      simp [Exchange.isReport, reports]
    · rw [figures, List.append_assoc]
      rfl

inductive Arrives (plan : Plan) (asOf : Instant) (request : RequestContext) : History → Progress → Prop where
  | arrived {isShared : Bool} {counting sweeping : History} {total : UInt64} {told : Progress}
      (counts : Transacts (countWork asOf) counting (.ok total))
      (reaches : Reaches plan asOf request 0 none (planned plan asOf total) sweeping told) :
      Arrives plan asOf request (cleared isShared ++ (counting ++ sweeping)) told

theorem Sweeps.arrives {isShared : Bool} {counting sweeping : History} {outcome : Except Stop Progress}
    (counts : Transacts (countWork asOf) counting (.ok total))
    (sweeps : Sweeps plan asOf request total 0 none (planned plan asOf total) sweeping outcome)
    (split : cleared isShared ++ (counting ++ sweeping) = before ++ ⟨.outside (.report told), answer⟩ :: after) :
    Arrives plan asOf request before told := by
  have silent : History.reports (cleared isShared ++ counting) = 0 := by
    simp [cleared, Exchange.isReport, (counting_of_transacts counts).silent.reports]
  rw [← List.append_assoc] at split
  obtain ⟨middle, rfl, paged⟩ := History.cut_of_not_mem_left split (History.not_mem_of_silent silent)
  rw [List.append_assoc]
  exact .arrived counts (sweeps.reaches paged)

theorem Fills.arrives {isShared : Bool} {filling tail : History}
    (fills : Fills plan asOf request isShared filling progress) (silent : tail.reports = 0)
    (split : filling ++ tail = before ++ ⟨.outside (.report told), answer⟩ :: after) :
    Arrives plan asOf request before told := by
  obtain ⟨rest, paged, -⟩ := History.cut_of_not_mem_right split (History.not_mem_of_silent silent)
  cases fills with
  | filled counts sweeps => exact sweeps.arrives counts paged

theorem Phases.arrives {outcome : Except Stop Report} (phases : Phases plan asOf request history outcome)
    (split : history = before ++ ⟨.outside (.report told), answer⟩ :: after) :
    Arrives plan asOf request before told := by
  cases phases with
  | uncleared broken => exact absurd (History.mem_of_split split) (History.not_mem_of_silent (History.reports_asked _))
  | uncounted counts =>
    refine absurd (History.mem_of_split split) (History.not_mem_of_silent ?_)
    simp [cleared, Exchange.isReport, (counting_of_transacts counts).silent.reports]
  | unswept counts sweeps => exact sweeps.arrives counts split
  | uncompacted fills => exact fills.arrives rfl split
  | cancelled fills => exact fills.arrives rfl split
  | unswapped fills => exact fills.arrives rfl split
  | uncleaned fills broken =>
    refine fills.arrives ?_ split
    simp [approved, Exchange.isReport, asked]
  | @finished isShared filling progress swapped fills =>
    refine fills.arrives ?_ split
    cases isShared <;> rfl

theorem Rebuilds.arrives {outcome : Except Stop Report} (rebuilds : Rebuilds plan asOf history outcome)
    (split : history = before ++ ⟨.outside (.report told), answer⟩ :: after) (incomplete : told.completed = false) :
    ∃ request middle, before = entered request ++ middle ∧ Arrives plan asOf request middle told := by
  have within {request : RequestContext} {middle tail : History} {outcome : Except Stop Report}
      (phases : Phases plan asOf request middle outcome) (silent : tail.reports = 0)
      (split : entered request ++ (middle ++ tail) = before ++ ⟨.outside (.report told), answer⟩ :: after) :
      ∃ request middle, before = entered request ++ middle ∧ Arrives plan asOf request middle told := by
    obtain ⟨rest, rfl, inside⟩ := History.cut_of_not_mem_left split (History.not_mem_of_silent rfl)
    obtain ⟨later, paged, -⟩ := History.cut_of_not_mem_right inside (History.not_mem_of_silent silent)
    exact ⟨request, rest, rfl, phases.arrives paged⟩
  cases rebuilds with
  | rejected => exact absurd (History.mem_of_split split) (History.not_mem_of_silent rfl)
  | panicked phases => exact within phases rfl split
  | failed phases => exact within phases rfl split
  | @completed request middle report final phases =>
    obtain ⟨rest, rfl, inside⟩ := History.cut_of_not_mem_left split (History.not_mem_of_silent rfl)
    rcases History.cut inside with ⟨later, paged, -⟩ | ⟨later, -, last⟩
    · exact ⟨request, rest, rfl, phases.arrives paged⟩
    · have member : told ∈ History.reported [⟨.restore request, ()⟩, ⟨.enter .done, ()⟩,
          ⟨.outside (.report report.progress.complete), final⟩, ⟨.release, ()⟩] := by
        rw [last]
        exact List.mem_filterMap.2 ⟨_, List.mem_append_right _ List.mem_cons_self, rfl⟩
      have same : told = report.progress.complete := List.mem_singleton.1 member
      rw [same] at incomplete
      cases incomplete

theorem Finishes.totals {transaction : Transaction} {isError : Bool}
    {outcome : Except Stop (Except TransactionError Unit)} (finishes : Finishes transaction isError history outcome) :
    history.totals = [] := by
  cases finishes <;> rfl

theorem Transacts.totals_of_count (counts : Transacts (countWork asOf) history (.ok total)) :
    history.totals = [total] ∧ history.commitRefused = false := by
  cases counts with
  | committed works finishes =>
    obtain ⟨answer, rfl, returned⟩ := goes_countWork works
    rw [(returned total).1 rfl]
    constructor
    · exact congrArg (List.cons total) finishes.totals
    · exact finishes.commitRefused_of_ok

theorem entered_cleared_quiet (request : RequestContext) (isShared : Bool) :
    History.totals (entered request ++ cleared isShared) = [] ∧
      History.commitRefused (entered request ++ cleared isShared) = false := ⟨rfl, rfl⟩

end Run

structure Reported (plan : Plan) (asOf : Instant) (total : UInt64) (before : History) (progress : Progress) : Prop where
  built : (before.built plan).length = before.reports + 1
  requests : before.requests = clearing ++ (before.built plan).flatMap BuiltPage.writing
  unswapped : before.swaps = []
  counted : before.totals = [total]
  /-- The count and every page have had a transaction of their own, and all of them are finished. -/
  turns : ∃ spans, Turns plan asOf 0 before spans (.ok () : Except Stop Unit) ∧
    spans.length = (before.built plan).length + 1
  committed : before.commitRefused = false
  figures : progress = .figures plan asOf total (before.built plan)

namespace Run

variable {plan : Plan} {asOf : Instant} {request : RequestContext} {history before after : History}
  {told : Progress} {answer : Answer Unit}

theorem Arrives.reported {middle : History} (arrives : Arrives plan asOf request middle told) :
    ∃ total, Reported plan asOf total (entered request ++ middle) told := by
  cases arrives with
  | @arrived isShared counting sweeping total told counts reaches =>
    have account := counting_of_transacts counts
    have opening : Opening request (entered request ++ (cleared isShared ++ counting)) counting.total? :=
      .of_counting account
    obtain ⟨counted, first, opened, one⟩ := counts.turns_of_count plan request isShared (returns_ok _)
    have captured : (⟨request, none, []⟩ : Journal).request = request := rfl
    have start : planned plan asOf total = .figures plan asOf total [] := rfl
    obtain ⟨pages, paged, count, figures⟩ := reaches.paged captured rfl start
    obtain ⟨spans, turns, number⟩ := paged.turns
    obtain ⟨told, granted⟩ := counts.totals_of_count
    obtain ⟨untold, quiet⟩ := entered_cleared_quiet request isShared
    have single : counted.length = 1 := one _ rfl
    have closing : Closing [] [] := ⟨fun journal => rfl, rfl, rfl, rfl⟩
    have parts : entered request ++ (cleared isShared ++ (counting ++ sweeping)) =
        (entered request ++ (cleared isShared ++ counting)) ++ (sweeping ++ []) := by
      simp only [List.append_assoc, List.append_nil]
    have built := (opening.built paged.sweeping closing).trans (List.append_nil pages)
    rw [parts]
    refine ⟨total, ?_, ?_, opening.unswapped paged.sweeping rfl, ?_, ?_, ?_, ?_⟩
    · rw [built, opening.reported closing, count]
    · rw [opening.made paged.sweeping closing, built]
      simp
    · rw [List.append_nil, History.totals_append, paged.untold, ← List.append_assoc, History.totals_append, untold,
        told]
      rfl
    · rw [built, List.append_nil]
      rw [← single] at turns
      refine ⟨counted ++ spans, first.append opened turns, ?_⟩
      rw [List.length_append, single, number]
      omega
    · rw [List.append_nil, History.commitRefused_append, paged.committed, ← List.append_assoc,
        History.commitRefused_append, quiet, granted]
      rfl
    · rw [built, figures]
      rfl

theorem Rebuilds.reported {outcome : Except Stop Report} (rebuilds : Rebuilds plan asOf history outcome)
    (split : history = before ++ ⟨.outside (.report told), answer⟩ :: after) (incomplete : told.completed = false) :
    ∃ total, Reported plan asOf total before told := by
  obtain ⟨request, middle, rfl, arrives⟩ := rebuilds.arrives split incomplete
  exact arrives.reported

theorem Sweeps.incomplete {total : UInt64} {outcome : Except Stop Progress}
    (sweeps : Sweeps plan asOf request total 0 none (planned plan asOf total) history outcome) :
    ∀ progress ∈ history.reported, progress.completed = false := by
  refine History.forall_reported fun before progress answer after split => ?_
  have captured : (⟨request, none, []⟩ : Journal).request = request := rfl
  have start : planned plan asOf total = .figures plan asOf total [] := rfl
  obtain ⟨pages, -, -, figures⟩ := (sweeps.reaches split).paged captured rfl start
  rw [figures]
  rfl

theorem Phases.incomplete {outcome : Except Stop Report} (phases : Phases plan asOf request history outcome) :
    ∀ progress ∈ history.reported, progress.completed = false := by
  refine History.forall_reported fun before progress answer after split => ?_
  obtain ⟨total, reported⟩ := (phases.arrives split).reported
  rw [reported.figures]
  rfl

theorem Rebuilds.incomplete {error : RebuildError} (rebuilds : Rebuilds plan asOf history (.error (.failed error))) :
    ∀ progress ∈ history.reported, progress.completed = false := by
  generalize result : (Except.error (.failed error) : Except Stop Report) = outcome at rebuilds
  cases rebuilds with
  | rejected => exact List.forall_mem_nil _
  | panicked phases => cases result
  | failed phases =>
    rw [History.reported_append, History.reported_append]
    refine List.forall_mem_append.2 ⟨List.forall_mem_nil _, List.forall_mem_append.2 ⟨phases.incomplete, ?_⟩⟩
    exact List.forall_mem_nil _
  | completed answer phases => cases answer <;> cases result

theorem Sweeps.last {total : UInt64} {page : Nat} {known : Option (List Locale)} {progress final : Progress}
    (sweeps : Sweeps plan asOf request total page known progress history (.ok final)) :
    history.reported.getLast?.getD progress = final := by
  generalize result : (Except.ok final : Except Stop Progress) = outcome at sweeps
  induction sweeps with
  | ended =>
    cases result
    rfl
  | @next page known progress paging rest written locales outcome below transacts sweeps ih =>
    have silent := History.reported_of_silent transacts.reports_of_page
    have later : History.reported (⟨.isCancelled, false⟩ ::
        (paging ++ ⟨.outside (.report (progress.recordPage written)), .returned ()⟩ :: rest)) =
        progress.recordPage written :: rest.reported := by
      change History.reported (paging ++ _) = _
      rw [History.reported_append, silent]
      rfl
    rw [later, List.getLast?_cons, Option.getD_some]
    exact ih result
  | _ => cases result

end Run

structure Concluded (plan : Plan) (asOf : Instant) (total : UInt64) (before : History) (report : Report) : Prop where
  counted : before.totals = [total]
  pages : before.reports = (pageCount total plan.config.pageSize).toNat
  incomplete : ∀ progress ∈ before.reported, progress.completed = false
  /-- The figures are the last ones, or those before the first page if there is none. -/
  progress : report.progress = (before.reported.getLast?.getD (Run.planned plan asOf total)).complete

namespace Run

variable {plan : Plan} {asOf : Instant} {request : RequestContext} {history before after : History}

theorem Sweeps.concluded {total : UInt64} {start counting sweeping ending : History} {progress : Progress}
    {swapped : Bool} (opens : start.totals = [] ∧ start.reports = 0)
    (counts : Transacts (countWork asOf) counting (.ok total))
    (sweeps : Sweeps plan asOf request total 0 none (planned plan asOf total) sweeping (.ok progress))
    (ends : ending.totals = [] ∧ ending.reports = 0) :
    Concluded plan asOf total (start ++ (counting ++ (sweeping ++ ending))) ⟨progress.complete, swapped⟩ := by
  have silent := (counting_of_transacts counts).silent.reports
  have captured : (⟨request, none, []⟩ : Journal).request = request := rfl
  obtain ⟨pages, -, count, reports, -⟩ := sweeps.sweeping_of_ok captured rfl (Nat.zero_le _)
  have untold : sweeping.totals = [] :=
    List.filterMap_eq_nil_iff.2 (sweeps.every frames_untold untold_of_writePage rfl)
  have told : History.reported (start ++ (counting ++ (sweeping ++ ending))) = sweeping.reported := by
    rw [History.reported_append, History.reported_append, History.reported_append,
      History.reported_of_silent opens.2, History.reported_of_silent silent, History.reported_of_silent ends.2,
      List.append_nil]
    rfl
  refine ⟨?_, ?_, ?_, ?_⟩
  · rw [History.totals_append, History.totals_append, History.totals_append, opens.1, counts.totals_of_count.1, untold,
      ends.1]
    rfl
  · rw [History.reports_append, History.reports_append, History.reports_append, opens.2, silent, reports, ends.2]
    change 0 + (0 + (pages.length + 0)) = pagesPlanned plan total
    omega
  · rw [told]
    exact sweeps.incomplete
  · rw [told, sweeps.last]

theorem Phases.concluded {report : Report} (phases : Phases plan asOf request history (.ok report)) :
    ∃ total, Concluded plan asOf total (entered request ++ (history ++ [⟨.restore request, ()⟩, ⟨.enter .done, ()⟩]))
      { report with progress := report.progress.complete } := by
  cases phases with
  | @finished isShared filling progress swapped fills =>
    cases fills with
    | @filled counting sweeping total progress counts sweeps =>
      have opens : History.totals (entered request ++ cleared isShared) = [] ∧
          History.reports (entered request ++ cleared isShared) = 0 := ⟨rfl, rfl⟩
      have ends : History.totals (approved ++ ⟨.swap, .ok swapped⟩ :: ⟨.enter .cleaning, ()⟩ ::
            (if isShared then [] else clearing.map asked) ++ [⟨.restore request, ()⟩, ⟨.enter .done, ()⟩]) = [] ∧
          History.reports (approved ++ ⟨.swap, .ok swapped⟩ :: ⟨.enter .cleaning, ()⟩ ::
            (if isShared then [] else clearing.map asked) ++ [⟨.restore request, ()⟩, ⟨.enter .done, ()⟩]) = 0 := by
        cases isShared <;> exact ⟨rfl, rfl⟩
      have concluded : Concluded plan asOf total _ ⟨progress.complete, swapped⟩ :=
        sweeps.concluded opens counts ends
      simp only [List.append_assoc] at concluded ⊢
      exact ⟨total, concluded⟩

theorem Rebuilds.concluded {report : Report} (rebuilds : Rebuilds plan asOf history (.ok report)) :
    ∃ before total, history = before ++ [⟨.outside (.report report.progress), .returned ()⟩, ⟨.release, ()⟩] ∧
      Concluded plan asOf total before report := by
  generalize result : (Except.ok report : Except Stop Report) = outcome at rebuilds
  cases rebuilds with
  | rejected => cases result
  | panicked phases => cases result
  | failed phases => cases result
  | @completed request middle report answer phases =>
    cases answer with
    | panicked text => cases result
    | returned reply =>
      cases result
      obtain ⟨total, concluded⟩ := phases.concluded
      refine ⟨_, total, ?_, concluded⟩
      simp only [List.append_assoc, List.cons_append, List.nil_append]
      rfl

end Run

namespace World

variable {γ σ : Type} [Engine γ] [Backed γ]

/-- Reports never run ahead of the index. When figures of pages are reported, these pages have been written in
finished transactions, readers of the generation that is rebuilt find exactly their documents, and the figures are
theirs. A rebuild that succeeds reports every page and then, with the same figures, that it is complete; one that
fails never reports the latter. -/
theorem reports_keep_pace (plan : Plan) (surroundings : Surroundings σ) (asOf : Instant) (world : World γ σ) :
    (∀ before progress answer after,
      world.history plan surroundings asOf = before ++ ⟨.outside (.report progress), answer⟩ :: after →
        progress.completed = false →
        ∃ total later, Reported plan asOf total before progress ∧
          (world.course plan surroundings asOf)[before.length]? = some later ∧
          Backed.Holds later.site.generations.reindex.engine (stored (before.built plan))) ∧
    (∀ report, (world.rebuild plan surroundings asOf).1 = .ok report →
      ∃ before total, world.history plan surroundings asOf =
          before ++ [⟨.outside (.report report.progress), .returned ()⟩, ⟨.release, ()⟩] ∧
        Concluded plan asOf total before report) ∧
    ∀ error, (world.rebuild plan surroundings asOf).1 = .error (.failed error) →
      ∀ progress ∈ (world.history plan surroundings asOf).reported, progress.completed = false := by
  have rebuilds := World.rebuilds plan surroundings asOf world
  refine ⟨fun before progress answer after split incomplete => ?_, fun report same => ?_, fun error same => ?_⟩
  · obtain ⟨total, reported⟩ := rebuilds.reported split incomplete
    have within : before.length < (world.course plan surroundings asOf).length := by
      have length : (world.course plan surroundings asOf).length =
          (world.history plan surroundings asOf).length + 1 := Dialogue.length_states _ _
      rw [length, split, List.length_append]
      omega
    -- The world in which a report is made comes in the course behind as many exchanges as precede the report.
    have found := List.getElem?_eq_getElem within
    have leads := leads_take found
    rw [split, List.take_left] at leads
    have served := leads.served (History.swapped_of_silent reported.unswapped)
    have serves := served.serves
    rw [reported.requests, ← List.append_nil (List.flatMap _ _)] at serves
    obtain ⟨middle, holds, last⟩ := Backed.holds_of_filling serves
    rw [← serves_nil.1 last] at holds
    exact ⟨total, _, reported, found, holds⟩
  · rw [same] at rebuilds
    exact rebuilds.concluded
  · rw [same] at rebuilds
    exact rebuilds.incomplete

theorem reports_keep_pace_trial :
    (∃ before answer after total,
      (Trial.world (Trial.refusing 2)).history Trial.plan (Trial.parties 0).surroundings .epoch =
          before ++ ⟨.outside (.report ⟨some .epoch, 2, 2, 1, 1, false⟩), answer⟩ :: after ∧
        Reported Trial.plan .epoch total before ⟨some .epoch, 2, 2, 1, 1, false⟩) ∧
    ∃ before total report,
      ((Trial.world Trial.memories).rebuild Trial.plan (Trial.parties 0).surroundings .epoch).1 = .ok report ∧
        Concluded Trial.plan .epoch total before report := by
  constructor
  · have told : ((Trial.world (Trial.refusing 2)).history Trial.plan (Trial.parties 0).surroundings .epoch).reported =
        [⟨some .epoch, 2, 2, 1, 1, false⟩] := rfl
    obtain ⟨exchange, inside, same⟩ := List.mem_filterMap.1 (told ▸ List.mem_singleton_self _)
    obtain ⟨answer, rfl⟩ := Exchange.of_reported? same
    obtain ⟨before, after, split⟩ := List.append_of_mem inside
    obtain ⟨total, later, reported, -, -⟩ := (reports_keep_pace Trial.plan (Trial.parties 0).surroundings .epoch
      (Trial.world (Trial.refusing 2))).1 before _ answer after split rfl
    exact ⟨before, answer, after, total, split, reported⟩
  · obtain ⟨before, total, -, concluded⟩ := (reports_keep_pace Trial.plan (Trial.parties 0).surroundings .epoch
      (Trial.world Trial.memories)).2.1 _ rfl
    exact ⟨before, total, _, rfl, concluded⟩

end World
end CatalogIndex
