import CatalogIndex.Proofs.Pages
import CatalogIndex.Proofs.Tally
/-!
The account of a rebuild: which pages it has built and which requests it has made, however it ends. Up to the
swap these are the requests of a clear, those of whole pages in their order, and at most the requests of one
broken page or of the compaction.
-/
namespace CatalogIndex

def BuiltPage.writing (page : BuiltPage) : List Request := CatalogIndex.writing page.documents

/-- What may come after the pages that have been written whole: nothing, or one page that could not be written,
with the requests made for it. -/
inductive Breaks : List BuiltPage → List Request → Prop where
  | nothing : Breaks [] []
  | page {page : BuiltPage} {error : SearchError} {requests : List Request} (nonempty : page.documents ≠ [])
      (broken : BrokenWrite page.documents error requests) : Breaks [page] requests

structure Idle (history : History) : Prop where
  requests : history.requests = []
  swaps : history.swaps = []
  notes : ∀ journal : Journal, journal.notes history = journal

/-- What a part of a sweep comes to: the pages written whole, and then `rest` and `tail` of a broken one. -/
structure Sweeping (plan : Plan) (journal : Journal) (history : History) (pages rest : List BuiltPage)
    (tail : List Request) : Prop where
  built : (journal.notes history).built plan = journal.built plan ++ (pages ++ rest)
  requests : history.requests = pages.flatMap BuiltPage.writing ++ tail
  swaps : history.swaps = []

namespace Sweeping

variable {plan : Plan} {journal : Journal} {before after history : History} {pages more rest : List BuiltPage}
  {tail : List Request}

theorem idle (idle : Idle history) : Sweeping plan journal history [] [] [] :=
  ⟨by simp [idle.notes], idle.requests, idle.swaps⟩

theorem append (first : Sweeping plan journal before pages [] [])
    (second : Sweeping plan (journal.notes before) after more rest tail) :
    Sweeping plan journal (before ++ after) (pages ++ more) rest tail := by
  refine ⟨?_, ?_, ?_⟩
  · rw [Journal.notes_append, second.built, first.built]
    simp
  · rw [History.requests_append, first.requests, second.requests]
    simp
  · rw [History.swaps_append, first.swaps, second.swaps, List.append_nil]

theorem append_idle (first : Sweeping plan journal before pages rest tail) (second : Idle after) :
    Sweeping plan journal (before ++ after) pages rest tail := by
  refine ⟨?_, ?_, ?_⟩
  · rw [Journal.notes_append, second.notes, first.built]
  · rw [History.requests_append, first.requests, second.requests, List.append_nil]
  · rw [History.swaps_append, first.swaps, second.swaps, List.append_nil]

theorem cons {exchange : Exchange} (first : Idle [exchange])
    (second : Sweeping plan journal history pages rest tail) :
    Sweeping plan journal (exchange :: history) pages rest tail := by
  have same : journal.notes [exchange] = journal := first.notes journal
  exact append (idle first) (same.symm ▸ second)

end Sweeping

namespace Idle

theorem nil : Idle [] := ⟨rfl, rfl, fun _ => rfl⟩

theorem begun (transaction : Transaction) : Idle [Run.begun transaction] := ⟨rfl, rfl, fun _ => rfl⟩

theorem isCancelled (reply : Bool) : Idle [⟨.isCancelled, reply⟩] := ⟨rfl, rfl, fun _ => rfl⟩

theorem report (progress : Progress) (answer : Answer Unit) : Idle [⟨.outside (.report progress), answer⟩] :=
  ⟨rfl, rfl, fun _ => rfl⟩

theorem finishes {transaction : Transaction} {isError : Bool} {history : History}
    {outcome : Except Stop (Except TransactionError Unit)}
    (finishes : Run.Finishes transaction isError history outcome) : Idle history :=
  ⟨finishes.silent.requests, finishes.silent.swaps, finishes.notes⟩

end Idle

namespace Run

variable {plan : Plan} {asOf : Instant} {request : RequestContext} {page : Nat}
  {known : Option (List Locale)} {history : History} {journal : Journal}

theorem Writes.sweeping_of_ok {written : Nat} {locales : List Locale}
    (captured : journal.request = request) (reads : journal.locales = known)
    (writes : Writes plan asOf request page known history (.ok (written, locales))) :
    (∃ page, Sweeping plan journal history [page] [] [] ∧ page.items.length = written) ∧ history.reports = 0 ∧
      history.commitRefused = false ∧ (journal.notes history).request = request ∧
      (journal.notes history).locales = some locales := by
  subst captured reads
  cases writes with
  | @written building documents locales builds =>
    obtain ⟨items, built, same, located⟩ := Journal.built_of_builds builds
    have quiet := builds.building
    have member : ⟨items, documents⟩ ∈ (journal.notes building).built plan := by
      rw [built]
      exact List.mem_append_right _ (List.mem_singleton_self _)
    have size : documents.length = items.length := Journal.length_of_mem_built member
    refine ⟨⟨⟨items, documents⟩, ⟨?_, ?_, ?_⟩, size.symm⟩, ?_, ?_, ?_, ?_⟩
    · simp [built]
    · simp [quiet.silent.requests, BuiltPage.writing]
    · simp [quiet.silent.swaps]
    · simp [quiet.silent.reports]
    · simp [quiet.committed]
    · simp [same]
    · simp [located]

theorem Writes.sweeping_of_error {stop : Stop} (captured : journal.request = request)
    (reads : journal.locales = known) (writes : Writes plan asOf request page known history (.error stop)) :
    (∃ rest tail, Sweeping plan journal history [] rest tail ∧ Breaks rest tail) ∧ history.reports = 0 ∧
      history.commitRefused = false := by
  subst captured reads
  cases writes with
  | unbuilt builds =>
    have quiet := builds.building
    refine ⟨⟨[], [], ⟨?_, ?_, ?_⟩, .nothing⟩, quiet.silent.reports, quiet.committed⟩
    · simp [Journal.built_of_not_builds builds]
    · simp [quiet.silent.requests]
    · exact quiet.silent.swaps
  | @unwritten building documents locales error requests builds nonempty broken =>
    obtain ⟨items, built, -, -⟩ := Journal.built_of_builds builds
    have quiet := builds.building
    refine ⟨⟨[⟨items, documents⟩], requests, ⟨?_, ?_, ?_⟩, .page nonempty broken⟩, ?_, ?_⟩
    · simp [built]
    · simp [quiet.silent.requests]
    · simp [quiet.silent.swaps]
    · simp [quiet.silent.reports]
    · simp [quiet.committed]

theorem Transacts.sweeping_of_ok {written : Nat} {locales : List Locale} (captured : journal.request = request)
    (reads : journal.locales = known)
    (transacts : Transacts (writePage plan asOf request page known) history (.ok (written, locales))) :
    (∃ page, Sweeping plan journal history [page] [] [] ∧ page.items.length = written) ∧ history.reports = 0 ∧
      history.commitRefused = false ∧ (journal.notes history).request = request ∧
      (journal.notes history).locales = some locales := by
  cases transacts with
  | @committed transaction working finishing value works finishes =>
    obtain ⟨⟨page, sweeping, size⟩, reports, committed, same, located⟩ :=
      (goes_writePage works).sweeping_of_ok captured reads
    refine ⟨⟨page, .cons (.begun _) (sweeping.append_idle (.finishes finishes)), size⟩, ?_, ?_, ?_, ?_⟩
    · simp [begun, Exchange.isReport, reports, finishes.silent.reports]
    · simp [begun, Exchange.refusesCommit, committed, finishes.commitRefused_of_ok]
    · simp [begun, Journal.note, finishes.notes, same]
    · simp [begun, Journal.note, finishes.notes, located]

/-- What a page comes to that ends with a stop: it may have been written whole, but if it has failed rather than
panicked, only because its transaction could not be committed. -/
def PageStops (plan : Plan) (journal : Journal) (history : History) (stop : Stop) : Prop :=
  ∃ pages rest tail, Sweeping plan journal history pages rest tail ∧ Breaks rest tail ∧
    (pages ++ rest).length ≤ 1 ∧ history.reports = 0 ∧
    ∀ error, stop = .failed error → pages.length = if history.commitRefused then 1 else 0

theorem pageStops_of_error {transaction : Transaction} {working finishing : History} {cause stop : Stop}
    (captured : journal.request = request) (reads : journal.locales = known)
    (works : Goes (writePage plan asOf request page known) working (.error cause)) (idle : Idle finishing)
    (silent : finishing.reports = 0) (granted : finishing.commitRefused = false) :
    PageStops plan journal (begun transaction :: (working ++ finishing)) stop := by
  obtain ⟨⟨rest, tail, sweeping, breaks⟩, reports, committed⟩ :=
    (goes_writePage works).sweeping_of_error captured reads
  have short : rest.length ≤ 1 := by cases breaks <;> simp
  refine ⟨[], rest, tail, .cons (.begun _) (sweeping.append_idle idle), breaks, short, ?_, fun error same => ?_⟩
  · simp [begun, Exchange.isReport, reports, silent]
  · simp [begun, Exchange.refusesCommit, committed, granted]

theorem pageStops_of_ok {transaction : Transaction} {working finishing : History} {value : Nat × List Locale}
    {ending : Except Stop (Except TransactionError Unit)} {stop : Stop}
    (captured : journal.request = request) (reads : journal.locales = known)
    (works : Goes (writePage plan asOf request page known) working (.ok value))
    (finishes : Finishes transaction false finishing ending)
    (refused : ∀ error, stop = .failed error → finishing.commitRefused = true) :
    PageStops plan journal (begun transaction :: (working ++ finishing)) stop := by
  obtain ⟨⟨page, sweeping, -⟩, reports, committed, same, located⟩ :=
    (goes_writePage works).sweeping_of_ok captured reads
  refine ⟨[page], [], [], .cons (.begun _) (sweeping.append_idle (.finishes finishes)), .nothing, Nat.le_refl 1,
    ?_, fun error same => ?_⟩
  · simp [begun, Exchange.isReport, reports, finishes.silent.reports]
  · simp [refused error same]

theorem Transacts.pageStops {stop : Stop} (captured : journal.request = request) (reads : journal.locales = known)
    (transacts : Transacts (writePage plan asOf request page known) history (.error stop)) :
    PageStops plan journal history stop := by
  cases transacts with
  | unbegun lost =>
    exact ⟨[], [], [], .idle ⟨rfl, rfl, fun _ => rfl⟩, .nothing, Nat.zero_le 1, rfl, fun error same => rfl⟩
  | uncommitted works finishes =>
    exact pageStops_of_ok captured reads works finishes fun _ _ => finishes.commitRefused_of_error
  | unfinished works finishes =>
    refine pageStops_of_ok captured reads works finishes fun error same => ?_
    obtain ⟨text, panicked⟩ := finishes.panicked_of_error
    rw [panicked] at same
    cases same
  | rolledBack works finishes =>
    exact pageStops_of_error captured reads works (.finishes finishes) finishes.silent.reports
      finishes.commitRefused_of_rollback
  | notRolledBack works finishes =>
    exact pageStops_of_error captured reads works (.finishes finishes) finishes.silent.reports
      finishes.commitRefused_of_rollback
  | @dropped transaction working text works =>
    rw [← List.append_nil working]
    exact pageStops_of_error captured reads works .nil rfl rfl

def pagesPlanned (plan : Plan) (total : UInt64) : Nat := (pageCount total plan.config.pageSize).toNat

theorem lt_pagesPlanned {plan : Plan} {total : UInt64} {page : Nat} :
    page < pagesPlanned plan total ↔ page * plan.config.pageSize.toNat < total.toNat :=
  lt_pageCount plan.pageSize_ne_zero

/-- A sweep that comes to its end has written every page that was planned, and has reported each. -/
theorem Sweeps.sweeping_of_ok {total : UInt64} {progress final : Progress} (captured : journal.request = request)
    (reads : journal.locales = known) (within : page ≤ pagesPlanned plan total)
    (sweeps : Sweeps plan asOf request total page known progress history (.ok final)) :
    ∃ pages, Sweeping plan journal history pages [] [] ∧ page + pages.length = pagesPlanned plan total ∧
      history.reports = pages.length ∧ history.commitRefused = false := by
  generalize result : (Except.ok final : Except Stop Progress) = outcome at sweeps
  induction sweeps generalizing journal with
  | @ended page known progress fits beyond =>
    have last : ¬ page < pagesPlanned plan total := fun below =>
      Nat.not_lt.2 beyond (lt_pagesPlanned.1 below)
    exact ⟨[], .idle .nil, by simp; omega, rfl, rfl⟩
  | @next page known progress paging rest written locales outcome below transacts sweeps ih =>
    obtain ⟨⟨first, sweeping, -⟩, reports, committed, same, located⟩ := transacts.sweeping_of_ok captured reads
    have reporting := Idle.report (progress.recordPage written) (.returned ())
    obtain ⟨pages, swept, count, further, refused⟩ := ih same located (lt_pagesPlanned.2 below) result
    refine ⟨first :: pages, .cons (.isCancelled false) (sweeping.append (.cons reporting swept)), ?_, ?_, ?_⟩
    · rw [List.length_cons]
      omega
    · simp [Exchange.isReport, reports, further]
    · simp [Exchange.refusesCommit, committed, refused]
  | _ => cases result

/-- A sweep that ends early has written pages from the first one on. Those are the reported ones, and one more
if the commit of its transaction was refused. -/
theorem Sweeps.sweeping_of_error {total : UInt64} {progress : Progress} {stop : Stop}
    (captured : journal.request = request) (reads : journal.locales = known)
    (within : page ≤ pagesPlanned plan total)
    (sweeps : Sweeps plan asOf request total page known progress history (.error stop)) :
    ∃ pages rest tail, Sweeping plan journal history pages rest tail ∧ Breaks rest tail ∧
      page + (pages ++ rest).length ≤ pagesPlanned plan total ∧
      ∀ error, stop = .failed error →
        pages.length = history.reports + if history.commitRefused then 1 else 0 := by
  generalize result : (Except.error stop : Except Stop Progress) = outcome at sweeps
  -- Each page starts from the journal that the pages before it have left.
  induction sweeps generalizing journal with
  | ended fits beyond => cases result
  | overflown overflows =>
    cases result
    exact ⟨[], [], [], .idle .nil, .nothing, by simpa using within, fun error same => nomatch same⟩
  | cancelled below => exact ⟨[], [], [], .idle (.isCancelled true), .nothing, by simpa using within, fun _ _ => rfl⟩
  | @stopped page known progress paging stop below transacts =>
    obtain ⟨pages, rest, tail, sweeping, breaks, short, reports, counted⟩ := transacts.pageStops captured reads
    cases result
    have := lt_pagesPlanned.2 below
    refine ⟨pages, rest, tail, .cons (.isCancelled false) sweeping, breaks, by omega, fun error same => ?_⟩
    simp [Exchange.isReport, Exchange.refusesCommit, reports, counted error same]
  | @unheard page known progress paging written locales text below transacts =>
    obtain ⟨⟨first, sweeping, -⟩, reports, committed, same, located⟩ := transacts.sweeping_of_ok captured reads
    cases result
    have := lt_pagesPlanned.2 below
    have reporting := Idle.report (progress.recordPage written) (.panicked text)
    refine ⟨[first], [], [], .cons (.isCancelled false) (sweeping.append_idle reporting), .nothing, ?_,
      fun error same => ?_⟩
    · rw [List.append_nil, List.length_singleton]
      omega
    · cases same
  | @next page known progress paging rest written locales outcome below transacts sweeps ih =>
    obtain ⟨⟨first, sweeping, -⟩, reports, committed, same, located⟩ := transacts.sweeping_of_ok captured reads
    have reporting := Idle.report (progress.recordPage written) (.returned ())
    obtain ⟨pages, rest, tail, swept, breaks, count, counted⟩ :=
      ih same located (lt_pagesPlanned.2 below) result
    refine ⟨first :: pages, rest, tail, .cons (.isCancelled false) (sweeping.append (.cons reporting swept)),
      breaks, ?_, fun error same => ?_⟩
    · rw [List.cons_append, List.length_cons]
      omega
    · rw [List.length_cons, counted error same]
      simp [Exchange.isReport, Exchange.refusesCommit, reports, committed]
      omega

end Run

namespace History

variable {before after : History}

theorem pageCommitRefused_append_right (readsNoPage : ∀ exchange ∈ before, exchange.readsPage = false) :
    pageCommitRefused (before ++ after) = pageCommitRefused after := by
  unfold pageCommitRefused
  rw [List.dropWhile_append_of_pos fun exchange member => by simp [readsNoPage exchange member]]

theorem pageCommitRefused_of_not {history : History} (committed : history.commitRefused = false) :
    history.pageCommitRefused = false := by
  unfold commitRefused at committed
  unfold pageCommitRefused commitRefused
  rw [List.any_eq_false] at committed ⊢
  intro exchange member
  exact committed exchange ((List.dropWhile_sublist _).mem member)

theorem pageCommitRefused_append_left (committed : after.commitRefused = false) :
    pageCommitRefused (before ++ after) = pageCommitRefused before := by
  unfold pageCommitRefused
  rw [List.dropWhile_append]
  split
  · rename_i isEmpty
    rw [List.isEmpty_iff.1 isEmpty]
    exact pageCommitRefused_of_not committed
  · rw [commitRefused_append, committed, Bool.or_false]

end History

namespace Run

variable {plan : Plan} {asOf : Instant} {request : RequestContext} {page : Nat}
  {known : Option (List Locale)} {history : History}

theorem Writes.reads_page {outcome : Except Stop (Nat × List Locale)}
    (writes : Writes plan asOf request page known history outcome) :
    ∃ answer rest, history = ⟨.outside (pageQuestion plan asOf page), answer⟩ :: rest := by
  have reads {building : History} {outcome : Except Stop (List Document × List Locale)}
      (builds : Builds plan asOf request page known building outcome) :
      ∃ answer rest, building = ⟨.outside (pageQuestion plan asOf page), answer⟩ :: rest := by
    cases builds <;> exact ⟨_, _, rfl⟩
  cases writes with
  | unbuilt builds => exact reads builds
  | unwritten builds nonempty broken =>
    obtain ⟨answer, rest, rfl⟩ := reads builds
    exact ⟨answer, _, rfl⟩
  | written builds =>
    obtain ⟨answer, rest, rfl⟩ := reads builds
    exact ⟨answer, _, rfl⟩

theorem Sweeps.pageCommitRefused_eq {total : UInt64} {progress : Progress} {outcome : Except Stop Progress}
    (sweeps : Sweeps plan asOf request total page known progress history outcome) :
    history.pageCommitRefused = history.commitRefused := by
  -- A page is read right behind the beginning of its transaction, so every commit of a sweep comes behind a page.
  have paged {paging rest : History} {page : Nat} {known : Option (List Locale)}
      {outcome : Except Stop (Nat × List Locale)}
      (transacts : Transacts (writePage plan asOf request page known) paging outcome)
      (later : (∃ stop, outcome = .error stop) → rest = []) :
      History.pageCommitRefused (⟨.isCancelled, false⟩ :: (paging ++ rest)) =
        History.commitRefused (⟨.isCancelled, false⟩ :: (paging ++ rest)) := by
    rcases transacts.opens with ⟨answer, stop, rfl, same⟩ | ⟨transaction, working, result, finishing, works, rfl, -⟩
    · rw [later ⟨stop, same⟩]
      rfl
    · obtain ⟨answer, others, rfl⟩ := (goes_writePage works).reads_page
      rfl
  cases sweeps with
  | ended => rfl
  | overflown => rfl
  | cancelled => rfl
  | stopped below transacts =>
    rename_i paging stop
    have alone : paging ++ [] = paging := List.append_nil paging
    rw [← alone]
    exact paged transacts fun _ => rfl
  | unheard below transacts =>
    refine paged transacts ?_
    rintro ⟨stop, same⟩
    cases same
  | next below transacts sweeps =>
    refine paged transacts ?_
    rintro ⟨stop, same⟩
    cases same

end Run
end CatalogIndex
