import CatalogIndex.Proofs.Account
/-!
The ways in which a rebuild can end, each with the pages that it has built and the requests that it has made.
-/
namespace CatalogIndex

/-- What the requests after a swap come to. -/
inductive Cleans (isShared : Bool) : List Request → Except Stop Report → Prop where
  | spared {outcome : Except Stop Report} (shared : isShared = true)
      (sound : ∀ error, outcome ≠ .error (.failed error)) : Cleans isShared [] outcome
  | cleaned {outcome : Except Stop Report} (dual : isShared = false)
      (sound : ∀ error, outcome ≠ .error (.failed error)) : Cleans isShared clearing outcome
  | uncleaned {error : SearchError} {requests : List Request} (dual : isShared = false)
      (broken : BrokenClear error requests) : Cleans isShared requests (.error (.failed (.deleteFailed error)))

theorem Cleans.dual_of_failed {isShared : Bool} {made : List Request} {error : RebuildError}
    (cleans : Cleans isShared made (.error (.failed error))) : isShared = false := by
  generalize result : (Except.error (.failed error) : Except Stop Report) = outcome at cleans
  cases cleans with
  | spared shared sound => exact absurd result.symm (sound error)
  | cleaned dual sound => exact dual
  | uncleaned dual broken => exact dual

/-- A history in which every planned page has been built and written to a cleared generation. -/
structure Filled (plan : Plan) (history : History) (pages : List BuiltPage) (tail : List Request) : Prop where
  built : history.built plan = pages
  requests : history.requests = clearing ++ (pages.flatMap BuiltPage.writing ++ tail)
  planned : ∃ total, history.total? = some total ∧ pages.length = Run.pagesPlanned plan total
  recorded : pages.length = history.reports
  committed : history.pageCommitRefused = false

/-- Everything that a rebuild can come to. -/
inductive Account (plan : Plan) : History → Except Stop Report → Prop where
  | rejected : Account plan [⟨.acquire, false⟩] (.error (.failed .alreadyRunning))
  | uncleared {history : History} {error : SearchError} {requests : List Request}
      (broken : BrokenClear error requests) (made : history.requests = requests)
      (unbuilt : history.built plan = []) (unswapped : history.swaps = []) :
      Account plan history (.error (.failed (.deleteFailed error)))
  | interrupted {history : History} {stop : Stop} {pages rest : List BuiltPage} {tail : List Request}
      (built : history.built plan = pages ++ rest)
      (made : history.requests = clearing ++ (pages.flatMap BuiltPage.writing ++ tail))
      (breaks : Breaks rest tail) (unswapped : history.swaps = [])
      (within : ∀ total, history.total? = some total → (pages ++ rest).length ≤ Run.pagesPlanned plan total)
      (recorded : ∀ error, stop = .failed error →
        pages.length = history.reports + if history.pageCommitRefused then 1 else 0) :
      Account plan history (.error stop)
  | unexchanged {history : History} {pages : List BuiltPage} {reply : Except SearchError Unit}
      {error : RebuildError} (filled : Filled plan history pages [⟨.optimize, reply⟩])
      (unswapped : ∀ reply ∈ history.swaps, ∃ error, reply = .error error) :
      Account plan history (.error (.failed error))
  | exchanged {before after : History} {pages : List BuiltPage} {isShared swapped : Bool}
      {outcome : Except Stop Report} (filled : Filled plan before pages [granted .optimize])
      (unswapped : before.swaps = []) (sure : Run.approved <:+ before)
      (mode : ⟨.isShared, isShared⟩ ∈ before) (closing : ∀ journal : Journal, journal.notes after = journal)
      (once : after.swaps = []) (unchecked : ∀ exchange ∈ after, exchange.1 ≠ .isCancelled)
      (cleans : Cleans isShared after.requests outcome) : Account plan (before ++ ⟨.swap, .ok swapped⟩ :: after) outcome

structure Opening (request : RequestContext) (history : History) (total : Option UInt64) : Prop where
  notes : Journal.empty.notes history = ⟨request, none, []⟩
  requests : history.requests = clearing
  swaps : history.swaps = []
  reports : history.reports = 0
  total : history.total? = total
  readsNoPage : ∀ exchange ∈ history, exchange.readsPage = false

structure Closing (history : History) (tail : List Request) : Prop where
  notes : ∀ journal : Journal, journal.notes history = journal
  requests : history.requests = tail
  reports : history.reports = 0
  committed : history.commitRefused = false

/-- What comes after the last request: no other swap, and no check for a cancellation. -/
structure Trailing (history : History) : Prop where
  notes : ∀ journal : Journal, journal.notes history = journal
  requests : history.requests = []
  swaps : history.swaps = []
  unchecked : ∀ exchange ∈ history, exchange.1 ≠ .isCancelled

theorem Closing.append {before after : History} {first second : List Request} (head : Closing before first)
    (rest : Closing after second) : Closing (before ++ after) (first ++ second) := by
  refine ⟨fun journal => ?_, ?_, ?_, ?_⟩
  · rw [Journal.notes_append, head.notes, rest.notes]
  · rw [History.requests_append, head.requests, rest.requests]
  · rw [History.reports_append, head.reports, rest.reports]
  · rw [History.commitRefused_append, head.committed, rest.committed, Bool.or_false]

namespace Opening

variable {plan : Plan} {request : RequestContext} {before middle after : History} {total : Option UInt64}
  {pages rest : List BuiltPage} {tail more : List Request}

theorem of_counting {outcome : Except Stop UInt64} {isShared : Bool} (counting : Run.Counting middle outcome) :
    Opening request (Run.entered request ++ (Run.cleared isShared ++ middle)) (History.total? middle) := by
  refine ⟨?_, ?_, ?_, ?_, ?_, ?_⟩
  · simp [Run.entered, Run.cleared, Journal.note, counting.notes, Journal.empty]
  · simp [Run.entered, Run.cleared, Exchange.request?, counting.silent.requests]
  · simp [Run.entered, Run.cleared, Exchange.swap?, counting.silent.swaps]
  · simp [Run.entered, Run.cleared, Exchange.isReport, counting.silent.reports]
  · simp [Run.entered, Run.cleared, Exchange.total?]
  · intro exchange member
    simp only [Run.entered, Run.cleared, List.mem_append, List.mem_cons, List.mem_map] at member
    rcases member with (rfl | rfl | rfl | member) | (rfl | ⟨request, -, rfl⟩ | rfl | member) | member
    all_goals first | rfl | contradiction | exact counting.readsNoPage exchange member

theorem built (opening : Opening request before total)
    (sweeping : Sweeping plan ⟨request, none, []⟩ middle pages rest tail) (closing : Closing after more) :
    History.built plan (before ++ (middle ++ after)) = pages ++ rest := by
  unfold History.built
  rw [Journal.notes_append, Journal.notes_append, opening.notes, closing.notes, sweeping.built]
  rfl

theorem made (opening : Opening request before total)
    (sweeping : Sweeping plan ⟨request, none, []⟩ middle pages rest tail) (closing : Closing after more) :
    History.requests (before ++ (middle ++ after)) =
      clearing ++ (pages.flatMap BuiltPage.writing ++ (tail ++ more)) := by
  rw [History.requests_append, History.requests_append, opening.requests, sweeping.requests, closing.requests]
  simp only [List.append_assoc]

theorem unswapped (opening : Opening request before total)
    (sweeping : Sweeping plan ⟨request, none, []⟩ middle pages rest tail) (unswapped : after.swaps = []) :
    History.swaps (before ++ (middle ++ after)) = [] := by
  rw [History.swaps_append, History.swaps_append, opening.swaps, sweeping.swaps, unswapped]
  rfl

theorem reported (opening : Opening request before total) (closing : Closing after more) :
    History.reports (before ++ (middle ++ after)) = middle.reports := by
  rw [History.reports_append, History.reports_append, opening.reports, closing.reports]
  omega

theorem committed (opening : Opening request before total) (closing : Closing after more) :
    History.pageCommitRefused (before ++ (middle ++ after)) = middle.pageCommitRefused := by
  rw [History.pageCommitRefused_append_right opening.readsNoPage,
    History.pageCommitRefused_append_left closing.committed]

theorem interrupted {stop : Stop} (opening : Opening request before total)
    (sweeping : Sweeping plan ⟨request, none, []⟩ middle pages rest tail) (breaks : Breaks rest tail)
    (closing : Closing after []) (silent : after.swaps = [])
    (within : ∀ told, (total.or (History.total? (middle ++ after))) = some told →
      (pages ++ rest).length ≤ Run.pagesPlanned plan told)
    (recorded : ∀ error, stop = .failed error →
      pages.length = middle.reports + if middle.pageCommitRefused then 1 else 0) :
    Account plan (before ++ (middle ++ after)) (.error stop) := by
  refine .interrupted (opening.built sweeping closing) ?_ breaks (opening.unswapped sweeping silent) ?_ ?_
  · rw [opening.made sweeping closing, List.append_nil]
  · intro told same
    rw [History.total?_append, opening.total] at same
    exact within told same
  · intro error same
    rw [opening.reported closing, opening.committed closing]
    exact recorded error same

end Opening

namespace Run

variable {plan : Plan} {asOf : Instant} {request : RequestContext} {middle after filling : History}
  {isShared : Bool} {progress : Progress} {tail : List Request}

theorem Fills.filled_of_closing (fills : Fills plan asOf request isShared filling progress) :
    ∃ pages, History.swaps filling = [] ∧ ⟨.isShared, isShared⟩ ∈ filling ∧
      ∀ {after : History} {tail : List Request}, Closing after tail →
        Filled plan (entered request ++ (filling ++ after)) pages tail := by
  cases fills with
  | @filled counting sweeping total _ counts sweeps =>
    have account := counting_of_transacts counts
    have opening : Opening request (entered request ++ (cleared isShared ++ counting)) counting.total? :=
      .of_counting account
    have captured : (⟨request, none, []⟩ : Journal).request = request := rfl
    obtain ⟨pages, swept, count, reports, committed⟩ := sweeps.sweeping_of_ok captured rfl (Nat.zero_le _)
    refine ⟨pages, ?_, ?_, fun {after tail} closing => ?_⟩
    · simp [cleared, Exchange.swap?, account.silent.swaps, swept.swaps]
    · simp [cleared]
    have parts : entered request ++ (cleared isShared ++ (counting ++ sweeping) ++ after) =
        (entered request ++ (cleared isShared ++ counting)) ++ (sweeping ++ after) := by
      simp only [List.append_assoc]
    rw [parts]
    refine ⟨?_, opening.made swept closing, ⟨total, ?_, ?_⟩, ?_, ?_⟩
    · rw [opening.built swept closing, List.append_nil]
    · rw [History.total?_append, opening.total, account.total total rfl]
      rfl
    · rw [← count, Nat.zero_add]
    · rw [opening.reported closing, reports]
    · rw [opening.committed closing, sweeps.pageCommitRefused_eq, committed]

theorem Fills.account_of_swap {swapped : Bool} {made : List Request} {outcome : Except Stop Report}
    (fills : Fills plan asOf request isShared filling progress) (trailing : Trailing after)
    (cleans : Cleans isShared made outcome) :
    Account plan (entered request ++ (filling ++ (approved ++ ⟨.swap, .ok swapped⟩ :: ⟨.enter .cleaning, ()⟩ ::
      made.map asked) ++ after)) outcome := by
  obtain ⟨pages, unasked, mode, filled⟩ := fills.filled_of_closing
  have approving : Closing approved [granted .optimize] := ⟨fun journal => rfl, rfl, rfl, rfl⟩
  have parts : entered request ++ (filling ++ (approved ++ ⟨.swap, .ok swapped⟩ :: ⟨.enter .cleaning, ()⟩ ::
        made.map asked) ++ after) =
      (entered request ++ (filling ++ approved)) ++ ⟨.swap, .ok swapped⟩ ::
        (⟨.enter .cleaning, ()⟩ :: (made.map asked ++ after)) := by
    simp only [List.append_assoc, List.cons_append]
  have present : ⟨.isShared, isShared⟩ ∈ entered request ++ (filling ++ approved) :=
    List.mem_append_right _ (List.mem_append_left _ mode)
  have requests : History.requests (⟨.enter .cleaning, ()⟩ :: (made.map asked ++ after)) = made := by
    simp [Exchange.request?, trailing.requests]
  rw [parts]
  refine .exchanged (filled approving) ?_ ?_ present ?_ ?_ ?_ (requests.symm ▸ cleans)
  · simp [entered, approved, Exchange.swap?, unasked, asked]
  · exact ⟨entered request ++ filling, by simp only [List.append_assoc]⟩
  · intro journal
    simp [Journal.note, trailing.notes]
  · simp [Exchange.swap?, trailing.swaps]
  · intro exchange member
    simp only [List.mem_cons, List.mem_append, List.mem_map] at member
    rcases member with rfl | ⟨request, -, rfl⟩ | member
    · intro same
      cases same
    · intro same
      cases same
    · exact trailing.unchecked exchange member

theorem Fills.account_of_error {step : History} {reply : Except SearchError Unit} {error : RebuildError}
    (fills : Fills plan asOf request isShared filling progress) (compacting : Closing step [⟨.optimize, reply⟩])
    (refused : ∀ reply ∈ step.swaps, ∃ error, reply = .error error) (closing : Closing after [])
    (silent : after.swaps = []) :
    Account plan (entered request ++ (filling ++ step ++ after)) (.error (.failed error)) := by
  obtain ⟨pages, unasked, mode, filled⟩ := fills.filled_of_closing
  rw [List.append_assoc]
  refine .unexchanged (filled (compacting.append closing)) ?_
  simpa [entered, Exchange.swap?, unasked, silent] using refused

theorem Phases.account_of_error {stop : Stop} (phases : Phases plan asOf request middle (.error stop))
    (closing : Closing after []) (unswapped : after.swaps = [])
    (unchecked : ∀ exchange ∈ after, exchange.1 ≠ .isCancelled) :
    Account plan (entered request ++ (middle ++ after)) (.error stop) := by
  -- The count belongs to what opens the history, and the pages come behind it.
  have counted {isShared : Bool} {counting sweeping : History} :
      entered request ++ (cleared isShared ++ (counting ++ sweeping) ++ after) =
        (entered request ++ (cleared isShared ++ counting)) ++ (sweeping ++ after) := by
    simp only [List.append_assoc]
  cases phases with
  | @uncleared isShared error requests broken =>
    refine .uncleared broken ?_ ?_ ?_
    · simp [entered, Exchange.request?, closing.requests]
    · simp [History.built, entered, Journal.note, Journal.empty, closing.notes, Journal.built]
    · simp [entered, Exchange.swap?, unswapped]
  | @uncounted isShared counting stop counts =>
    have opening : Opening request (entered request ++ (cleared isShared ++ counting)) counting.total? :=
      .of_counting (counting_of_transacts counts)
    rw [← List.append_nil counting, counted]
    exact opening.interrupted (.idle .nil) .nothing closing unswapped (fun _ _ => Nat.zero_le _) fun _ _ => rfl
  | @unswept isShared counting sweeping total stop counts sweeps =>
    have account := counting_of_transacts counts
    have captured : (⟨request, none, []⟩ : Journal).request = request := rfl
    obtain ⟨pages, rest, tail, swept, breaks, count, recorded⟩ :=
      sweeps.sweeping_of_error captured rfl (Nat.zero_le _)
    rw [counted]
    refine (Opening.of_counting account).interrupted swept breaks closing unswapped ?_ ?_
    · intro told same
      rw [account.total total rfl] at same
      cases same
      rwa [Nat.zero_add] at count
    · rw [sweeps.pageCommitRefused_eq]
      exact recorded
  | uncompacted fills =>
    refine fills.account_of_error ⟨fun journal => rfl, rfl, rfl, rfl⟩ ?_ closing unswapped
    intro reply member
    cases member
  | cancelled fills =>
    refine fills.account_of_error ⟨fun journal => rfl, rfl, rfl, rfl⟩ ?_ closing unswapped
    intro reply member
    cases member
  | unswapped fills =>
    refine fills.account_of_error ⟨fun journal => rfl, rfl, rfl, rfl⟩ ?_ closing unswapped
    intro reply member
    exact ⟨_, List.mem_singleton.1 member⟩
  | @uncleaned filling progress swapped error requests fills broken =>
    exact fills.account_of_swap ⟨closing.notes, closing.requests, unswapped, unchecked⟩ (.uncleaned rfl broken)

theorem Phases.account_of_ok {report : Report} {outcome : Except Stop Report}
    (phases : Phases plan asOf request middle (.ok report)) (trailing : Trailing after)
    (sound : ∀ error, outcome ≠ .error (.failed error)) :
    Account plan (entered request ++ (middle ++ after)) outcome := by
  cases phases with
  | @finished isShared filling progress swapped fills =>
    match isShared with
    | true =>
      have spared : Cleans true [] outcome := .spared rfl sound
      exact fills.account_of_swap trailing spared
    | false => exact fills.account_of_swap trailing (.cleaned rfl sound)

theorem Rebuilds.account {history : History} {outcome : Except Stop Report}
    (rebuilds : Rebuilds plan asOf history outcome) : Account plan history outcome := by
  cases rebuilds with
  | rejected => exact .rejected
  | panicked phases => exact phases.account_of_error ⟨fun journal => rfl, rfl, rfl, rfl⟩ rfl (by simp)
  | failed phases => exact phases.account_of_error ⟨fun journal => rfl, rfl, rfl, rfl⟩ rfl (by simp)
  | completed answer phases =>
    refine phases.account_of_ok ⟨fun journal => rfl, rfl, rfl, by simp⟩ fun error same => ?_
    cases answer <;> cases same

end Run

section

variable {plan : Plan} {before after history : History} {pages : List BuiltPage} {tail : List Request}
  {total : UInt64}

theorem Filled.length_of_total (filled : Filled plan before pages tail)
    (told : History.total? (before ++ after) = some total) : pages.length = Run.pagesPlanned plan total := by
  obtain ⟨other, same, planned⟩ := filled.planned
  rw [History.total?_append, same] at told
  cases told
  exact planned

theorem Filled.nothing_further (filled : Filled plan before pages tail) {further : List BuiltPage}
    (planned : ∀ total, before.total? = some total →
      (before.built plan ++ further).length = Run.pagesPlanned plan total) : further = [] := by
  obtain ⟨total, told, count⟩ := filled.planned
  have all := planned total told
  rw [filled.built, List.length_append] at all
  exact List.length_eq_zero_iff.1 (by omega)

theorem History.built_swap {reply : Except SearchError Bool}
    (closing : ∀ journal : Journal, journal.notes after = journal) :
    History.built plan (before ++ ⟨.swap, reply⟩ :: after) = History.built plan before := by
  simp [History.built, Journal.note, closing]

theorem Account.length_built_le {outcome : Except Stop Report} (account : Account plan history outcome)
    (told : history.total? = some total) : (history.built plan).length ≤ Run.pagesPlanned plan total := by
  cases account with
  | rejected => cases told
  | uncleared broken made unbuilt unswapped => simp [unbuilt]
  | interrupted built made breaks unswapped within recorded =>
    rw [built]
    exact within total told
  | unexchanged filled unswapped =>
    rw [← List.append_nil history] at told
    refine Nat.le_of_eq ?_
    rw [filled.built, filled.length_of_total told]
  | exchanged filled unswapped sure mode closing once unchecked cleans =>
    refine Nat.le_of_eq ?_
    rw [History.built_swap closing, filled.built, filled.length_of_total told]

end

end CatalogIndex
