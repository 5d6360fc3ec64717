import CatalogIndex.Proofs.Checks
import CatalogIndex.Proofs.Outcome
/-!
The rounds of a sweep. Each round reads the next page, and there are as many as pages have been planned for the total,
whatever is found on them, unless a reply stops the sweep before. The product that decides on another round belongs to a
planned page or to the first one behind them, so only the last of these products may be too large for a word.
-/
namespace CatalogIndex

namespace Exchange

def readPage? : Exchange → Option Nat
  | ⟨.outside (.page number ..), _⟩ => some number.toNat
  | _ => none

/-- Whether a reply stops whatever has asked for it: a cancellation, a panic or a failure. -/
def hinders : Exchange → Bool
  | ⟨.isCancelled, isCancelled⟩ => isCancelled
  | ⟨.outside _, .panicked _⟩ => true
  | exchange => exchange.fails

theorem hinders_of_fails {exchange : Exchange} (fails : exchange.fails = true) : exchange.hinders = true := by
  match exchange with
  | ⟨.isCancelled, _⟩ => cases fails
  | ⟨.outside _, .panicked _⟩ => rfl
  | ⟨.outside _, .returned _⟩ => exact fails
  | ⟨.acquire, _⟩ | ⟨.release, _⟩ | ⟨.enter _, _⟩ | ⟨.isShared, _⟩ | ⟨.capture, _⟩ | ⟨.restore _, _⟩
  | ⟨.perform _, _⟩ | ⟨.swap, _⟩ => exact fails

theorem readPage?_of_isHandling {exchange : Exchange} (handling : exchange.1.isHandling = true) :
    exchange.readPage? = none := by
  unfold readPage?
  split
  · cases handling
  · rfl

end Exchange

def History.pagesRead (history : History) : List Nat := history.filterMap Exchange.readPage?

def Unhindered (history : History) : Prop := ∀ exchange ∈ history, exchange.hinders = false

instance (history : History) : Decidable (Unhindered history) :=
  inferInstanceAs (Decidable (∀ exchange ∈ history, exchange.hinders = false))

theorem History.pagesRead_append (before after : History) :
    pagesRead (before ++ after) = pagesRead before ++ pagesRead after := List.filterMap_append

theorem not_unhindered {history : History} {exchange : Exchange} (member : exchange ∈ history)
    (hinders : exchange.hinders = true) : ¬ Unhindered history := by
  intro free
  rw [free exchange member] at hinders
  cases hinders

namespace Run

variable {plan : Plan} {asOf : Instant} {request : RequestContext} {total : UInt64} {page : Nat}
  {known : Option (List Locale)} {progress : Progress} {history : History}

theorem pagesRead_of_works (small : page < UInt64.size) (works : Works (pageQuestion plan asOf page) history) :
    history.pagesRead = [page] := by
  obtain ⟨answer, handling⟩ := works
  have number : (UInt64.ofNat page).toNat = page := UInt64.toNat_ofNat_of_lt' small
  have nothing : History.pagesRead _ = [] :=
    List.filterMap_eq_nil_iff.2 fun later member => Exchange.readPage?_of_isHandling (handling later member)
  exact congrArg₂ List.cons number nothing

theorem Finishes.pagesRead {transaction : Transaction} {isError : Bool}
    {outcome : Except Stop (Except TransactionError Unit)}
    (finishes : Finishes transaction isError history outcome) : history.pagesRead = [] := by
  cases finishes <;> rfl

theorem Transacts.pagesRead {outcome : Except Stop (Nat × List Locale)} (small : page < UInt64.size)
    (transacts : Transacts (writePage plan asOf request page known) history outcome) :
    history.pagesRead = [page] ∨ history.pagesRead = [] ∧ ∃ stop, outcome = .error stop := by
  have whole {transaction : Transaction} {working finishing : History} {result : Except Stop (Nat × List Locale)}
      (works : Goes (writePage plan asOf request page known) working result) (nothing : finishing.pagesRead = []) :
      History.pagesRead (begun transaction :: (working ++ finishing)) = [page] := by
    change History.pagesRead (working ++ finishing) = _
    rw [History.pagesRead_append, pagesRead_of_works small (works_of_writePage works), nothing, List.append_nil]
  cases transacts with
  | unbegun lost => exact .inr ⟨rfl, _, rfl⟩
  | committed works finishes => exact .inl (whole works finishes.pagesRead)
  | uncommitted works finishes => exact .inl (whole works finishes.pagesRead)
  | unfinished works finishes => exact .inl (whole works finishes.pagesRead)
  | rolledBack works finishes => exact .inl (whole works finishes.pagesRead)
  | notRolledBack works finishes => exact .inl (whole works finishes.pagesRead)
  | @dropped transaction working text works =>
    rw [← List.append_nil working]
    exact .inl (whole works rfl)

theorem Transacts.hindered {stop : Stop}
    (transacts : Transacts (writePage plan asOf request page known) history (.error stop)) : ¬ Unhindered history := by
  cases stop with
  | panicked text =>
    obtain ⟨question, panics⟩ := transacts.panics tells_of_writePage
    exact not_unhindered panics rfl
  | failed error =>
    rcases (transacts.explains tells_of_writePage).failed with ⟨-, cancelled, -⟩ | ⟨before, exchange, after, rfl, failed⟩
    · exact not_unhindered cancelled rfl
    · have fails := Exchange.fails_of_failure? failed
      exact not_unhindered (List.mem_append_right _ List.mem_cons_self) (Exchange.hinders_of_fails fails)

/-- How the rounds of a sweep end: a reply stops them, the planned ones have been made, or these have been made and the
product behind the last of them is too large for a word. -/
inductive Ends (plan : Plan) (total : UInt64) (progress : Progress) (history : History) (next : Nat) :
    Except Stop Progress → Prop where
  | stopped {stop : Stop} (hindered : ¬ Unhindered history)
      (panics : ∀ text, stop = .panicked text → ∃ question, ⟨.outside question, .panicked text⟩ ∈ history) :
      Ends plan total progress history next (.error stop)
  | finished {final : Progress} (all : next = pagesPlanned plan total)
      (fits : next * plan.config.pageSize.toNat < UInt64.size) (pages : final.pages = progress.pages + history.pagesRead.length)
      (planned : final.totalPages = progress.totalPages) : Ends plan total progress history next (.ok final)
  | overflown (all : next = pagesPlanned plan total)
      (overflows : UInt64.size ≤ next * plan.config.pageSize.toNat) :
      Ends plan total progress history next (.error overflow)

theorem Ends.cons {paging rest : History} {written next : Nat} {answer : Answer Unit} {outcome : Except Stop Progress}
    (read : paging.pagesRead = [page])
    (ends : Ends plan total (progress.recordPage written) rest next outcome) :
    Ends plan total progress
      (⟨.isCancelled, false⟩ :: (paging ++ ⟨.outside (.report (progress.recordPage written)), answer⟩ :: rest)) next
      outcome := by
  have inside {exchange : Exchange} (member : exchange ∈ rest) : exchange ∈
      (⟨.isCancelled, false⟩ :: (paging ++ ⟨.outside (.report (progress.recordPage written)), answer⟩ :: rest) : History) :=
    List.mem_cons_of_mem _ (List.mem_append_right _ (List.mem_cons_of_mem _ member))
  cases ends with
  | stopped hindered panics =>
    refine .stopped (fun free => hindered fun exchange member => free exchange (inside member)) fun text same => ?_
    obtain ⟨question, member⟩ := panics text same
    exact ⟨question, inside member⟩
  | finished all fits pages planned =>
    refine .finished all fits ?_ planned
    have count : History.pagesRead (⟨.isCancelled, false⟩ ::
        (paging ++ ⟨.outside (.report (progress.recordPage written)), answer⟩ :: rest)) = page :: rest.pagesRead := by
      change History.pagesRead (paging ++ _) = _
      rw [History.pagesRead_append, read]
      rfl
    rw [count, pages, List.length_cons]
    change progress.pages + 1 + _ = _
    omega
  | overflown all overflows => exact .overflown all overflows

/-- From a planned page on, or from the first one behind them, a sweep reads one page after the other. -/
theorem Sweeps.rounds {outcome : Except Stop Progress}
    (sweeps : Sweeps plan asOf request total page known progress history outcome)
    (within : page ≤ pagesPlanned plan total) :
    ∃ count, page + count ≤ pagesPlanned plan total ∧ history.pagesRead = List.range' page count ∧
      Ends plan total progress history (page + count) outcome := by
  have small {page : Nat} (below : page * plan.config.pageSize.toNat < total.toNat) : page < UInt64.size :=
    Nat.lt_trans (lt_pagesPlanned.2 below) (UInt64.toNat_lt_size _)
  -- The pages read are counted from the one at hand: it is read unless the sweep ends or is stopped in front of it, and
  -- then come those of the rest.
  induction sweeps with
  | ended fits beyond =>
    have last : ¬ _ < pagesPlanned plan total := fun below => Nat.not_lt.2 beyond (lt_pagesPlanned.1 below)
    exact ⟨0, within, rfl, .finished (by omega) fits rfl rfl⟩
  | overflown overflows =>
    have last : ¬ _ < pagesPlanned plan total := fun below =>
      Nat.not_lt.2 overflows (Nat.lt_trans (lt_pagesPlanned.1 below) total.toNat_lt_size)
    exact ⟨0, within, rfl, .overflown (by omega) overflows⟩
  | cancelled below =>
    have hindered : ¬ Unhindered [⟨.isCancelled, true⟩] := not_unhindered List.mem_cons_self rfl
    exact ⟨0, within, rfl, .stopped hindered fun text same => nomatch same⟩
  | @stopped page known progress paging stop below transacts =>
    have planned := lt_pagesPlanned.2 below
    have hindered : ¬ Unhindered (⟨.isCancelled, false⟩ :: paging) := fun free =>
      transacts.hindered fun exchange member => free exchange (List.mem_cons_of_mem _ member)
    have panics (text : String) (same : stop = .panicked text) :
        ∃ question, ⟨.outside question, .panicked text⟩ ∈ (⟨.isCancelled, false⟩ :: paging : History) := by
      subst same
      obtain ⟨question, member⟩ := transacts.panics tells_of_writePage
      exact ⟨question, List.mem_cons_of_mem _ member⟩
    rcases transacts.pagesRead (small below) with read | ⟨read, -⟩
    · exact ⟨1, planned, read, .stopped hindered panics⟩
    · exact ⟨0, within, read, .stopped hindered panics⟩
  | @unheard page known progress paging written locales text below transacts =>
    have member : ⟨.outside (.report (progress.recordPage written)), .panicked text⟩ ∈ (⟨.isCancelled, false⟩ ::
        (paging ++ [⟨.outside (.report (progress.recordPage written)), .panicked text⟩]) : History) :=
      List.mem_cons_of_mem _ (List.mem_append_right _ List.mem_cons_self)
    refine ⟨1, lt_pagesPlanned.2 below, ?_, .stopped (not_unhindered member rfl) fun other same => ?_⟩
    · change History.pagesRead (paging ++ _) = _
      rcases transacts.pagesRead (small below) with read | ⟨-, stop, impossible⟩
      · rw [History.pagesRead_append, read]
        rfl
      · cases impossible
    · cases same
      exact ⟨_, member⟩
  | @next page known progress paging rest written locales outcome below transacts sweeps ih =>
    obtain ⟨count, bound, later, ends⟩ := ih (lt_pagesPlanned.2 below)
    rcases transacts.pagesRead (small below) with read | ⟨-, stop, impossible⟩
    · refine ⟨count + 1, by omega, ?_, ?_⟩
      · change History.pagesRead (paging ++ _) = _
        rw [History.pagesRead_append, read]
        exact congrArg (List.cons page) later
      · rw [show page + (count + 1) = page + 1 + count by omega]
        exact ends.cons read
    · cases impossible

theorem fits_of_half (half : total ≤ 0x8000000000000000) :
    pagesPlanned plan total * plan.config.pageSize.toNat < UInt64.size := by
  cases last : pagesPlanned plan total with
  | zero => simp
  | succ page =>
    have small : 2 * total.toNat ≤ UInt64.size := by
      have bound : total.toNat ≤ 9223372036854775808 := UInt64.le_iff_toNat_le.1 half
      have size : UInt64.size = 18446744073709551616 := rfl
      omega
    have below : page < pagesPlanned plan total := by omega
    exact fits_next small (lt_pagesPlanned.1 below)

def loop (plan : Plan) (asOf : Instant) (request : RequestContext) (total : UInt64) : Run Progress :=
  sweep plan asOf request total (total.toNat + 1) 0 none (planned plan asOf total)

/-- This is what the phases do between the count of the items and the merge at the end. -/
theorem phases_eq (plan : Plan) (asOf : Instant) (request : RequestContext) : phases plan asOf request = (do
    let isShared ← ask .isShared
    clear
    ask (.enter .paging)
    let total ← inTransaction do expect .catalog (← outside (.count asOf))
    let progress ← loop plan asOf request total
    ask (.enter .finalizing)
    expect .rebuildFailed (← maintain (.request .optimize))
    checkCancelled
    ask (.enter .swapping)
    let swapped ← expect .rebuildFailed (← ask .swap)
    ask (.enter .cleaning)
    if !isShared then clear
    return ⟨progress, swapped⟩) := rfl

structure KeepsToPlan (plan : Plan) (total : UInt64) (history : History) (outcome : Except Stop Progress) : Prop where
  inOrder : ∃ count ≤ pagesPlanned plan total, history.pagesRead = List.range count
  whole : ∀ progress, outcome = .ok progress → history.pagesRead = List.range (pagesPlanned plan total) ∧
    progress.pages = pagesPlanned plan total ∧ progress.totalPages = pageCount total plan.config.pageSize
  /-- If no reply stops it, it comes to its end, as long as the product behind the last page fits a word. -/
  free : Unhindered history → history.pagesRead = List.range (pagesPlanned plan total) ∧
    if pagesPlanned plan total * plan.config.pageSize.toNat < UInt64.size then ∃ progress, outcome = .ok progress
    else outcome = .error overflow
  /-- If no party panics, this product is the only one that can be too large. -/
  overflown : ∀ text, outcome = .error (.panicked text) →
    (∃ question, ⟨.outside question, .panicked text⟩ ∈ history) ∨
      history.pagesRead = List.range (pagesPlanned plan total) ∧
        UInt64.size ≤ pagesPlanned plan total * plan.config.pageSize.toNat

theorem Sweeps.keepsToPlan {outcome : Except Stop Progress}
    (sweeps : Sweeps plan asOf request total 0 none (planned plan asOf total) history outcome) :
    KeepsToPlan plan total history outcome := by
  obtain ⟨count, within, read, ends⟩ := sweeps.rounds (Nat.zero_le _)
  rw [Nat.zero_add] at within ends
  rw [← List.range_eq_range'] at read
  cases ends with
  | stopped hindered panics =>
    refine ⟨⟨count, within, read⟩, fun progress impossible => (nomatch impossible), fun free => absurd free hindered,
      fun text same => .inl (panics text (Except.error.inj same))⟩
  | finished all fits pages planned =>
    subst all
    refine ⟨⟨_, within, read⟩, fun progress same => ?_, fun free => ⟨read, ?_⟩, fun text impossible => (nomatch impossible)⟩
    · cases same
      refine ⟨read, ?_, planned⟩
      rw [pages, read, List.length_range]
      exact Nat.zero_add _
    · rw [if_pos fits]
      exact ⟨_, rfl⟩
  | overflown all overflows =>
    subst all
    refine ⟨⟨_, within, read⟩, fun progress impossible => (nomatch impossible), fun free => ⟨read, ?_⟩,
      fun text same => .inr ⟨read, overflows⟩⟩
    rw [if_neg (Nat.not_lt.2 overflows)]

/-- Whatever is replied to it, the loop of a rebuild keeps to the planned pages. All of them begin within a word, and
with a total of at most half the range of a word so does the page behind the last one. -/
theorem loop_keeps_to_plan {σ : Type} (respond : Dialogue.Responder Call.Reply σ) (state : σ) (plan : Plan)
    (asOf : Instant) (request : RequestContext) (total : UInt64) :
    KeepsToPlan plan total ((loop plan asOf request total).run.transcript respond state)
        ((loop plan asOf request total).run.exec respond state).1 ∧
      (∀ page < pagesPlanned plan total, page * plan.config.pageSize.toNat < UInt64.size) ∧
      (total ≤ 0x8000000000000000 → pagesPlanned plan total * plan.config.pageSize.toNat < UInt64.size) := by
  refine ⟨?_, fun page planned => ?_, fits_of_half⟩
  · have goes : Goes (loop plan asOf request total) _ _ := Dialogue.path_transcript respond _ state
    exact (goes_sweep _ (Nat.zero_le _) (by omega) goes).keepsToPlan
  · exact Nat.lt_trans (lt_pagesPlanned.1 planned) total.toNat_lt_size

end Run

namespace Trial

def sprawling : Plan := ⟨⟨0x8000000000000000, "catalog", .standard⟩, [], rfl⟩

def looped (plan : Plan) (total : UInt64) : History :=
  (Run.loop plan .epoch .empty total).run.transcript (World.replies plan (parties 0).surroundings) (world memories)

def loopedTo (plan : Plan) (total : UInt64) : Except Stop Progress :=
  ((Run.loop plan .epoch .empty total).run.exec (World.replies plan (parties 0).surroundings) (world memories)).1

end Trial

namespace Run

theorem loop_keeps_to_plan_trial :
    (∃ progress, Trial.loopedTo Trial.plan 2 = .ok progress ∧ progress.pages = 2 ∧
        (Trial.looped Trial.plan 2).pagesRead = [0, 1]) ∧
      Unhindered (Trial.looped Trial.sprawling 0xffffffffffffffff) ∧
        Trial.loopedTo Trial.sprawling 0xffffffffffffffff = .error overflow ∧
        (Trial.looped Trial.sprawling 0xffffffffffffffff).pagesRead = [0, 1] := by
  have small := (loop_keeps_to_plan (World.replies Trial.plan (Trial.parties 0).surroundings)
    (Trial.world Trial.memories) Trial.plan .epoch .empty 2).1
  have large := (loop_keeps_to_plan (World.replies Trial.sprawling (Trial.parties 0).surroundings)
    (Trial.world Trial.memories) Trial.sprawling .epoch .empty 0xffffffffffffffff).1
  have gentle : Unhindered (Trial.looped Trial.plan 2) := by decide +kernel
  have free : Unhindered (Trial.looped Trial.sprawling 0xffffffffffffffff) := by decide +kernel
  constructor
  · obtain ⟨read, progress, ends⟩ := small.free gentle
    exact ⟨progress, ends, (small.whole progress ends).2.1, read⟩
  · obtain ⟨read, ends⟩ := large.free free
    exact ⟨free, ends, read⟩

end Run
end CatalogIndex
