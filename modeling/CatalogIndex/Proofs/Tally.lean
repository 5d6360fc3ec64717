import CatalogIndex.Proofs.Journal
/-!
What a history comes to: the requests that it makes, the replies to its swaps, the reports and the pages. The
histories of the sweep are added up here; whether it ends early or not, it has written whole pages, and at
most one more that is broken.
-/
namespace CatalogIndex

namespace Exchange

def request? : Exchange → Option Request
  | ⟨.perform operation, reply⟩ => some ⟨operation, reply⟩
  | _ => none

def swap? : Exchange → Option (Except SearchError Bool)
  | ⟨.swap, reply⟩ => some reply
  | _ => none

def swapped : Exchange → Bool
  | ⟨.swap, .ok true⟩ => true
  | _ => false

def total? : Exchange → Option UInt64
  | ⟨.outside (.count _), .returned (.ok total)⟩ => some total
  | _ => none

def isReport : Exchange → Bool
  | ⟨.outside (.report _), _⟩ => true
  | _ => false

def readsPage : Exchange → Bool
  | ⟨.outside (.page ..), _⟩ => true
  | _ => false

def refusesCommit : Exchange → Bool
  | ⟨.outside (.finish _ .commit), .returned (.error _)⟩ => true
  | _ => false

def builds : Exchange → Bool
  | ⟨.outside (.page ..), _⟩ => true
  | ⟨.outside .descriptors, _⟩ => true
  | ⟨.outside .locales, _⟩ => true
  | ⟨.outside (.handler _), _⟩ => true
  | _ => false

end Exchange

namespace History

variable {before after history : History}

def requests (history : History) : List Request := history.filterMap Exchange.request?

def swaps (history : History) : List (Except SearchError Bool) := history.filterMap Exchange.swap?

def swapped (history : History) : Bool := history.any Exchange.swapped

def total? (history : History) : Option UInt64 := history.findSome? Exchange.total?

def reports (history : History) : Nat := history.countP Exchange.isReport

def commitRefused (history : History) : Bool := history.any Exchange.refusesCommit

def pageCommitRefused (history : History) : Bool :=
  commitRefused (history.dropWhile fun exchange => !exchange.readsPage)

def built (plan : Plan) (history : History) : List BuiltPage := (Journal.empty.notes history).built plan

@[simp] theorem requests_append : requests (before ++ after) = requests before ++ requests after :=
  List.filterMap_append

@[simp] theorem swaps_append : swaps (before ++ after) = swaps before ++ swaps after := List.filterMap_append

@[simp] theorem reports_append : reports (before ++ after) = reports before + reports after :=
  List.countP_append

@[simp] theorem total?_append : total? (before ++ after) = (total? before).or (total? after) :=
  List.findSome?_append

@[simp] theorem commitRefused_append :
    commitRefused (before ++ after) = (commitRefused before || commitRefused after) := List.any_append

@[simp] theorem swapped_append : swapped (before ++ after) = (swapped before || swapped after) := List.any_append

@[simp] theorem swapped_cons (exchange : Exchange) :
    swapped (exchange :: history) = (exchange.swapped || swapped history) := List.any_cons

theorem swapped_of_swaps (unswapped : ∀ reply ∈ history.swaps, reply ≠ .ok true) : history.swapped = false := by
  unfold swapped
  rw [List.any_eq_false]
  intro exchange member isSwapped
  obtain ⟨call, reply⟩ := exchange
  unfold Exchange.swapped at isSwapped
  split at isSwapped
  · rename_i same
    cases same
    exact unswapped (.ok true) (List.mem_filterMap.2 ⟨_, member, rfl⟩) rfl
  · cases isSwapped

theorem swapped_of_silent (silent : history.swaps = []) : history.swapped = false :=
  swapped_of_swaps fun reply member => by simp [silent] at member

theorem swapped_of_refused (refused : ∀ reply ∈ history.swaps, ∃ error, reply = .error error) :
    history.swapped = false := by
  refine swapped_of_swaps fun reply member same => ?_
  obtain ⟨error, failed⟩ := refused reply member
  rw [failed] at same
  cases same

theorem swaps_take (i : Nat) (silent : history.swaps = []) : swaps (history.take i) = [] := by
  rw [swaps, List.filterMap_eq_nil_iff] at silent ⊢
  exact fun exchange member => silent exchange (List.mem_of_mem_take member)

@[simp] theorem requests_nil : requests [] = [] := rfl

@[simp] theorem swaps_nil : swaps [] = [] := rfl

@[simp] theorem reports_nil : reports [] = 0 := rfl

@[simp] theorem total?_nil : total? [] = none := rfl

@[simp] theorem commitRefused_nil : commitRefused [] = false := rfl

@[simp] theorem requests_cons (exchange : Exchange) :
    requests (exchange :: history) = exchange.request?.toList ++ requests history := by
  cases h : exchange.request? <;> simp [requests, h]

@[simp] theorem swaps_cons (exchange : Exchange) :
    swaps (exchange :: history) = exchange.swap?.toList ++ swaps history := by
  cases h : exchange.swap? <;> simp [swaps, h]

@[simp] theorem reports_cons (exchange : Exchange) :
    reports (exchange :: history) = reports history + if exchange.isReport then 1 else 0 := List.countP_cons

@[simp] theorem total?_cons (exchange : Exchange) :
    total? (exchange :: history) = exchange.total?.or (total? history) := by
  cases h : exchange.total? <;> simp [total?, h]

@[simp] theorem commitRefused_cons (exchange : Exchange) :
    commitRefused (exchange :: history) = (exchange.refusesCommit || commitRefused history) := List.any_cons

@[simp] theorem requests_asked (requests : List Request) : History.requests (requests.map asked) = requests := by
  induction requests with
  | nil => rfl
  | cons request rest ih => exact congrArg (List.cons request) ih

@[simp] theorem swaps_asked (requests : List Request) : swaps (requests.map asked) = [] := by
  simp [swaps, asked, Exchange.swap?]

@[simp] theorem reports_asked (requests : List Request) : reports (requests.map asked) = 0 := by
  simp [reports, List.countP_eq_zero, asked, Exchange.isReport]

@[simp] theorem total?_asked (requests : List Request) : total? (requests.map asked) = none := by
  unfold total?
  rw [List.findSome?_eq_none_iff]
  intro exchange member
  obtain ⟨request, -, rfl⟩ := List.mem_map.1 member
  rfl

@[simp] theorem commitRefused_asked (requests : List Request) : commitRefused (requests.map asked) = false := by
  simp [commitRefused, asked, Exchange.refusesCommit]

end History

/-- A history that asks nothing of the site and reports nothing. -/
structure Silent (history : History) : Prop where
  requests : history.requests = []
  swaps : history.swaps = []
  reports : history.reports = 0

structure Building (history : History) : Prop where
  silent : Silent history
  total : history.total? = none
  committed : history.commitRefused = false

namespace Building

variable {exchange : Exchange} {before after history : History}

theorem nil : Building [] := ⟨⟨rfl, rfl, rfl⟩, rfl, rfl⟩

theorem cons (builds : exchange.builds = true) (building : Building history) :
    Building (exchange :: history) := by
  obtain ⟨⟨requests, swaps, reports⟩, total, committed⟩ := building
  have idle : exchange.request? = none ∧ exchange.swap? = none ∧ exchange.isReport = false ∧
      exchange.total? = none ∧ exchange.refusesCommit = false := by
    unfold Exchange.builds at builds
    split at builds
    all_goals first | exact ⟨rfl, rfl, rfl, rfl, rfl⟩ | cases builds
  obtain ⟨noRequest, noSwap, noReport, noTotal, noRefusal⟩ := idle
  refine ⟨⟨?_, ?_, ?_⟩, ?_, ?_⟩
  · simp [noRequest, requests]
  · simp [noSwap, swaps]
  · simp [noReport, reports]
  · simp [noTotal, total]
  · simp [noRefusal, committed]

theorem append (first : Building before) (second : Building after) : Building (before ++ after) := by
  refine ⟨⟨?_, ?_, ?_⟩, ?_, ?_⟩
  · simp [first.silent.requests, second.silent.requests]
  · simp [first.silent.swaps, second.silent.swaps]
  · simp [first.silent.reports, second.silent.reports]
  · simp [first.total, second.total]
  · simp [first.committed, second.committed]

theorem told (replies : List Consulted) : Building (replies.map CatalogIndex.told) := by
  induction replies with
  | nil => exact nil
  | cons reply rest ih => exact cons rfl ih

theorem located {known : Option (List Locale)} {locales : List Locale}
    (located : Run.Located known history locales) : Building history := by
  cases located with
  | known => exact nil
  | read => exact cons rfl nil

end Building

theorem Run.Builds.building {plan : Plan} {asOf : Instant} {request : RequestContext} {page : Nat}
    {known : Option (List Locale)} {history : History} {outcome : Except Stop (List Document × List Locale)}
    (builds : Builds plan asOf request page known history outcome) : Building history := by
  cases builds with
  | unread lost => exact .cons rfl .nil
  | undescribed lost => exact .cons rfl (.cons rfl .nil)
  | unlocated lost => exact .cons rfl (.cons rfl (.cons rfl .nil))
  | unheard located unanswered =>
    exact .cons rfl (.cons rfl (.append (.located located) (.append (.told _) (.cons rfl .nil))))
  | unbuilt located answered => exact .cons rfl (.cons rfl (.append (.located located) (.told _)))
  | built located answered => exact .cons rfl (.cons rfl (.append (.located located) (.told _)))

namespace Run

variable {history : History}

namespace Finishes

variable {transaction : Transaction} {isError : Bool} {outcome : Except Stop (Except TransactionError Unit)}

theorem silent (finishes : Finishes transaction isError history outcome) : Silent history := by
  cases finishes with
  | left => exact ⟨rfl, rfl, rfl⟩
  | asked => exact ⟨rfl, rfl, rfl⟩

theorem notes (finishes : Finishes transaction isError history outcome) (journal : Journal) :
    journal.notes history = journal := by
  cases finishes <;> rfl

/-- Only a panic keeps a transaction from being ended one way or the other. -/
theorem panicked_of_error {stop : Stop} (finishes : Finishes transaction isError history (.error stop)) :
    ∃ text, stop = .panicked text := by
  generalize same : (Except.error stop : Except Stop (Except TransactionError Unit)) = outcome at finishes
  cases finishes with
  | left => cases same
  | asked asks answer =>
    cases answer with
    | returned reply => cases same
    | panicked text =>
      cases same
      exact ⟨text, rfl⟩

theorem commitRefused_of_rollback (finishes : Finishes transaction true history outcome) :
    history.commitRefused = false := by
  cases finishes with
  | left => rfl
  | @asked ending asks answer =>
    have rollback : ending = .rollback := by
      simp only [Transaction.ending] at asks
      split at asks <;> simp_all
    rw [rollback]
    rfl

theorem commitRefused_of_ok (finishes : Finishes transaction false history (.ok (.ok ()))) :
    history.commitRefused = false := by
  generalize same : (Except.ok (.ok ()) : Except Stop (Except TransactionError Unit)) = outcome at finishes
  cases finishes with
  | left => rfl
  | @asked ending asks answer =>
    cases answer with
    | panicked text => cases same
    | returned reply =>
      cases same
      cases ending <;> rfl

theorem commitRefused_of_error {error : TransactionError}
    (finishes : Finishes transaction false history (.ok (.error error))) : history.commitRefused = true := by
  generalize same : (Except.ok (.error error) : Except Stop (Except TransactionError Unit)) = outcome at finishes
  cases finishes with
  | left => cases same
  | @asked ending asks answer =>
    have commit : ending = .commit := by
      simp only [Transaction.ending] at asks
      split at asks <;> simp_all
    subst commit
    cases answer with
    | panicked text => cases same
    | returned reply =>
      cases same
      rfl

end Finishes

theorem goes_countWork {asOf : Instant} {outcome : Except Stop UInt64}
    (goes : Goes (countWork asOf) history outcome) :
    ∃ answer, history = [⟨.outside (.count asOf), answer⟩] ∧
      ∀ total, outcome = .ok total ↔ answer = .returned (.ok total) := by
  rcases goes_bind.1 goes with ⟨stop, first, rfl⟩ | ⟨reply, before, rest, first, second, rfl⟩
  · obtain ⟨text, -, rfl⟩ := goes_outside_error.1 first
    exact ⟨_, rfl, fun total => ⟨nofun, nofun⟩⟩
  · obtain rfl := goes_outside_ok.1 first
    obtain ⟨rfl, rfl⟩ := goes_expect.1 second
    refine ⟨_, rfl, fun total => ?_⟩
    cases reply with
    | error error =>
      constructor
      · intro same
        cases same
      · intro same
        cases Answer.returned.inj same
    | ok value =>
      constructor
      · intro same
        cases same
        rfl
      · intro same
        cases Answer.returned.inj same
        rfl

theorem Transacts.opens {α : Type} {work : Run α} {outcome : Except Stop α}
    (transacts : Transacts work history outcome) :
    (∃ answer stop, history = [⟨.outside (.begin (.forReading transactionName)), answer⟩] ∧
      outcome = .error stop) ∨
    ∃ transaction working result finishing, Goes work working result ∧
      history = begun transaction :: (working ++ finishing) ∧
      (finishing = [] ∨ ∃ isError ending, Finishes transaction isError finishing ending) ∧
      ∀ value, outcome = .ok value → result = .ok value := by
  cases transacts with
  | unbegun lost => exact .inl ⟨_, _, rfl, rfl⟩
  | committed works finishes =>
    exact .inr ⟨_, _, _, _, works, rfl, .inr ⟨_, _, finishes⟩, fun value same => same⟩
  | uncommitted works finishes =>
    exact .inr ⟨_, _, _, _, works, rfl, .inr ⟨_, _, finishes⟩, fun value same => nomatch same⟩
  | unfinished works finishes =>
    exact .inr ⟨_, _, _, _, works, rfl, .inr ⟨_, _, finishes⟩, fun value same => nomatch same⟩
  | rolledBack works finishes =>
    exact .inr ⟨_, _, _, _, works, rfl, .inr ⟨_, _, finishes⟩, fun value same => nomatch same⟩
  | notRolledBack works finishes =>
    exact .inr ⟨_, _, _, _, works, rfl, .inr ⟨_, _, finishes⟩, fun value same => nomatch same⟩
  | dropped works =>
    exact .inr ⟨_, _, _, [], works, by rw [List.append_nil], .inl rfl, fun value same => nomatch same⟩

structure Counting (history : History) (outcome : Except Stop UInt64) : Prop where
  silent : Silent history
  readsNoPage : ∀ exchange ∈ history, exchange.readsPage = false
  notes : ∀ journal : Journal, journal.notes history = journal
  total : ∀ total, outcome = .ok total → history.total? = some total

theorem counting_of_transacts {asOf : Instant} {outcome : Except Stop UInt64}
    (counts : Transacts (countWork asOf) history outcome) : Counting history outcome := by
  rcases counts.opens with ⟨answer, stop, rfl, rfl⟩ | ⟨transaction, working, result, finishing, works, rfl, ends, told⟩
  · exact ⟨⟨rfl, rfl, rfl⟩, by simp [Exchange.readsPage], fun journal => rfl, fun total same => nomatch same⟩
  obtain ⟨answer, rfl, returned⟩ := goes_countWork works
  have silent : Silent finishing ∧ (∀ journal : Journal, journal.notes finishing = journal) ∧
      ∀ exchange ∈ finishing, exchange.readsPage = false := by
    rcases ends with rfl | ⟨isError, ending, finishes⟩
    · exact ⟨⟨rfl, rfl, rfl⟩, fun journal => rfl, by simp⟩
    · refine ⟨finishes.silent, finishes.notes, ?_⟩
      cases finishes <;> simp [Exchange.readsPage]
  obtain ⟨⟨requests, swaps, reports⟩, notes, readsNoPage⟩ := silent
  refine ⟨⟨?_, ?_, ?_⟩, ?_, fun journal => ?_, fun total same => ?_⟩
  · simp [begun, Exchange.request?, requests]
  · simp [begun, Exchange.swap?, swaps]
  · simp [begun, Exchange.isReport, reports]
  · simpa [begun, Exchange.readsPage] using readsNoPage
  · simp [begun, Journal.note, notes]
  · rw [(returned total).1 (told total same)]
    simp [begun, Exchange.total?]

end Run
end CatalogIndex
