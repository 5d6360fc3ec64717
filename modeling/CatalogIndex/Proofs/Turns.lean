import CatalogIndex.Proofs.Failures
import CatalogIndex.Proofs.Paging
import Mathlib.Data.List.TakeWhile
/-!
Transactions in a history. A history is laid out as spans, one for each transaction, with only calls that belong to
no transaction between them. The first span counts the items and each further one writes the next page; each is
closed in the way that its work asks for.
-/
namespace CatalogIndex

/-- A transaction with what is called inside of it and what is called to finish it. -/
structure Span where
  transaction : Transaction
  working : History
  finishing : History

namespace Span

def history (span : Span) : History := Run.begun span.transaction :: (span.working ++ span.finishing)

def failed (span : Span) : Bool := span.working.any Exchange.fails

def undone (span : Span) : Bool := span.failed && !span.transaction.rollbackOnly

/-- Work that starts with a question, and then one call to commit it or to roll it back, as it has gone. Only a
transaction that is rollback-only is left without such a call. -/
structure Kept (span : Span) (question : Outside) : Prop where
  works : Works question span.working
  finished : span.finishing.map Sigma.fst =
    if span.transaction.rollbackOnly then []
    else [.outside (.finish span.transaction (if span.failed then .rollback else .commit))]

end Span

namespace Exchange

def isBegin : Exchange → Bool
  | ⟨.outside (.begin _), _⟩ => true
  | _ => false

def isFinalizing : Exchange → Bool
  | ⟨.enter .finalizing, _⟩ => true
  | _ => false

/-- Whether a step is due, if all pages have not been written yet: the count when paging is entered, and a page
when the rebuild turns out not to be cancelled. -/
def isAttempt : Exchange → Bool
  | ⟨.enter .paging, _⟩ => true
  | ⟨.isCancelled, false⟩ => true
  | _ => false

def isPlain (exchange : Exchange) : Bool := !(exchange.isBegin || exchange.isAttempt || exchange.isFinalizing)

def rolledBack? : Exchange → Option Transaction
  | ⟨.outside (.finish transaction .rollback), _⟩ => some transaction
  | _ => none

/-- Whether an exchange stands outside of all transactions: it begins none, finishes none and does none of their
work. -/
def isApart : Exchange → Bool
  | ⟨.outside (.begin _), .returned (.ok _)⟩ => false
  | ⟨.outside (.begin _), _⟩ => true
  | ⟨.outside (.report _), _⟩ => true
  | ⟨.outside _, _⟩ => false
  | ⟨.perform (.add _), _⟩ => false
  | ⟨.perform .rollback, _⟩ => false
  | _ => true

theorem rolledBack?_of_isApart {exchange : Exchange} (apart : exchange.isApart = true) :
    exchange.rolledBack? = none := by
  unfold rolledBack?
  split
  · cases apart
  · rfl

theorem of_isPlain {exchange : Exchange} (plain : exchange.isPlain = true) :
    exchange.isBegin = false ∧ exchange.isAttempt = false ∧ exchange.isFinalizing = false := by
  simpa [isPlain, and_assoc] using plain

theorem of_isAttempt {exchange : Exchange} (due : exchange.isAttempt = true) :
    exchange.isApart = true ∧ exchange.isBegin = false ∧ exchange.isFinalizing = false := by
  unfold isAttempt at due
  split at due
  · exact ⟨rfl, rfl, rfl⟩
  · exact ⟨rfl, rfl, rfl⟩
  · cases due

theorem of_isHandling {exchange : Exchange} (handling : exchange.1.isHandling = true) :
    exchange.isPlain = true ∧ exchange.rolledBack? = none := by
  obtain ⟨call, reply⟩ := exchange
  cases call with
  | outside question => cases question <;> first | exact ⟨rfl, rfl⟩ | cases handling
  | perform operation => exact ⟨rfl, rfl⟩
  | _ => cases handling

end Exchange

namespace History

variable {before after history : History}

def begins (history : History) : Nat := history.countP Exchange.isBegin

/-- The number of steps that were due: the count and the pages that were reached. -/
def attempts (history : History) : Nat := (history.takeWhile (!·.isFinalizing)).countP Exchange.isAttempt

def rollbacks (history : History) : List Transaction := history.filterMap Exchange.rolledBack?

@[simp] theorem begins_append : begins (before ++ after) = begins before + begins after := List.countP_append

@[simp] theorem begins_cons (exchange : Exchange) :
    begins (exchange :: history) = begins history + if exchange.isBegin then 1 else 0 := List.countP_cons

@[simp] theorem attempts_cons (exchange : Exchange) : attempts (exchange :: history) =
    if exchange.isFinalizing then 0 else attempts history + if exchange.isAttempt then 1 else 0 := by
  unfold attempts
  rw [List.takeWhile_cons]
  cases exchange.isFinalizing with
  | true => rfl
  | false => exact List.countP_cons

@[simp] theorem rollbacks_append : rollbacks (before ++ after) = rollbacks before ++ rollbacks after :=
  List.filterMap_append

theorem attempts_append (paging : ∀ exchange ∈ before, exchange.isFinalizing = false) :
    attempts (before ++ after) = attempts before + attempts after := by
  have unfinished : ∀ exchange ∈ before, (!exchange.isFinalizing) = true := by
    intro exchange member
    rw [paging exchange member]
    rfl
  unfold attempts
  rw [List.takeWhile_append_of_pos unfinished, List.countP_append, List.takeWhile_eq_self_iff.2 unfinished]

theorem begins_of_isPlain (plain : ∀ exchange ∈ history, exchange.isPlain = true) : history.begins = 0 := by
  unfold begins
  rw [List.countP_eq_zero]
  intro exchange member begins
  rw [(Exchange.of_isPlain (plain exchange member)).1] at begins
  cases begins

theorem attempts_of_isPlain (plain : ∀ exchange ∈ history, exchange.isPlain = true) : history.attempts = 0 := by
  unfold attempts
  rw [List.countP_eq_zero]
  intro exchange member due
  rw [(Exchange.of_isPlain (plain exchange ((List.takeWhile_sublist _).mem member))).2.1] at due
  cases due

end History

def Run.stepQuestion (plan : Plan) (asOf : Instant) : Nat → Outside
  | 0 => .count asOf
  | page + 1 => pageQuestion plan asOf page

/-- A history laid out as spans, the first one for a given step and each further one for the next step. -/
inductive Laid (plan : Plan) (asOf : Instant) : Nat → History → List Span → Prop where
  | nil {step : Nat} : Laid plan asOf step [] []
  | apart {step : Nat} {exchange : Exchange} {rest : History} {spans : List Span} (apart : exchange.isApart = true)
      (laid : Laid plan asOf step rest spans) : Laid plan asOf step (exchange :: rest) spans
  | span {step : Nat} {span : Span} {rest : History} {spans : List Span}
      (kept : span.Kept (Run.stepQuestion plan asOf step)) (laid : Laid plan asOf (step + 1) rest spans) :
      Laid plan asOf step (span.history ++ rest) (span :: spans)

inductive Ended {α : Type} (spans : List Span) : Nat → Except Stop α → Prop where
  | passed {outcome : Except Stop α} (sound : ∀ span ∈ spans, span.failed = false) : Ended spans spans.length outcome
  | broken {earlier : List Span} {last : Span} {error : RebuildError} (sound : ∀ span ∈ earlier, span.failed = false)
      (failed : last.failed = true) (same : spans = earlier ++ [last]) :
      Ended spans spans.length (.error (.failed error))
  | refused {error : TransactionError} (sound : ∀ span ∈ spans, span.failed = false) :
      Ended spans (spans.length + 1) (.error (.failed (.transaction error)))

/-- A history whose transactions come one after the other, one for each step that was due. -/
structure Turns {α : Type} (plan : Plan) (asOf : Instant) (step : Nat) (history : History) (spans : List Span)
    (outcome : Except Stop α) : Prop where
  laid : Laid plan asOf step history spans
  named : ∀ definition reply, ⟨.outside (.begin definition), reply⟩ ∈ history →
    definition.readOnly = true ∧ definition.name = "rebuildIndex"
  attempted : history.begins = history.attempts
  ended : Ended spans history.begins outcome

section

variable {α β : Type} {plan : Plan} {asOf : Instant} {step : Nat} {before after history : History}
  {spans more : List Span} {outcome : Except Stop α}

theorem laid_of_apart (apart : ∀ exchange ∈ history, exchange.isApart = true) :
    Laid plan asOf step history [] := by
  induction history with
  | nil => exact .nil
  | cons exchange rest ih =>
    obtain ⟨first, later⟩ := List.forall_mem_cons.1 apart
    exact .apart first (ih later)

theorem Laid.append (first : Laid plan asOf step before spans)
    (second : Laid plan asOf (step + spans.length) after more) :
    Laid plan asOf step (before ++ after) (spans ++ more) := by
  induction first with
  | nil => exact second
  | apart apart laid ih => exact .apart apart (ih second)
  | span kept laid ih =>
    rw [List.append_assoc]
    refine .span kept (ih ?_)
    rw [List.length_cons, Nat.add_comm _ 1, ← Nat.add_assoc] at second
    exact second

end

namespace Span.Kept

variable {plan : Plan} {asOf : Instant} {step : Nat} {span : Span}

theorem working (kept : span.Kept (Run.stepQuestion plan asOf step)) :
    ∀ exchange ∈ span.working, exchange.isPlain = true ∧ exchange.rolledBack? = none := by
  obtain ⟨works, -⟩ := kept
  generalize span.working = working at works
  obtain ⟨answer, handling⟩ := works
  refine List.forall_mem_cons.2 ⟨?_, fun later member => Exchange.of_isHandling (handling later member)⟩
  cases step <;> exact ⟨rfl, rfl⟩

theorem finishing {question : Outside} (kept : span.Kept question) :
    (∀ exchange ∈ span.finishing, exchange.isPlain = true) ∧
      span.finishing.rollbacks = if span.undone then [span.transaction] else [] := by
  have finished := kept.finished
  unfold Span.undone
  cases left : span.transaction.rollbackOnly with
  | true =>
    rw [left, if_pos rfl, List.map_eq_nil_iff] at finished
    rw [finished, Bool.not_true, Bool.and_false]
    exact ⟨List.forall_mem_nil _, rfl⟩
  | false =>
    rw [left, if_neg Bool.false_ne_true, List.map_eq_singleton_iff] at finished
    obtain ⟨⟨call, answer⟩, same, rfl⟩ := finished
    rw [same]
    refine ⟨List.forall_mem_singleton.2 rfl, ?_⟩
    cases span.failed <;> rfl

theorem inside (kept : span.Kept (Run.stepQuestion plan asOf step)) :
    ∀ exchange ∈ span.working ++ span.finishing, exchange.isPlain = true :=
  List.forall_mem_append.2 ⟨fun exchange member => (kept.working exchange member).1, kept.finishing.1⟩

theorem tally (kept : span.Kept (Run.stepQuestion plan asOf step)) :
    span.history.begins = 1 ∧ span.history.attempts = 0 ∧
      span.history.rollbacks = if span.undone then [span.transaction] else [] := by
  have silent : span.working.rollbacks = [] :=
    List.filterMap_eq_nil_iff.2 fun exchange member => (kept.working exchange member).2
  refine ⟨?_, ?_, ?_⟩
  · rw [Span.history, History.begins_cons, History.begins_of_isPlain kept.inside]
    rfl
  · rw [Span.history, History.attempts_cons, History.attempts_of_isPlain kept.inside]
    rfl
  · rw [← kept.finishing.2, ← List.nil_append span.finishing.rollbacks, ← silent, ← History.rollbacks_append]
    rfl

end Span.Kept

section

variable {α β : Type} {plan : Plan} {asOf : Instant} {step : Nat} {before after history : History}
  {spans more : List Span} {outcome : Except Stop α} {stop : Stop}

/-- Exactly the transactions of failed work are rolled back, those excepted that are rollback-only. -/
theorem Laid.rollbacks (laid : Laid plan asOf step history spans) :
    history.rollbacks = (spans.filter Span.undone).map Span.transaction := by
  induction laid with
  | nil => rfl
  | apart apart laid ih =>
    rw [← ih]
    exact List.filterMap_cons_none (Exchange.rolledBack?_of_isApart apart)
  | @span step span rest spans kept laid ih =>
    rw [History.rollbacks_append, kept.tally.2.2, ih, List.filter_cons]
    cases span.undone <;> rfl

namespace Ended

variable {begun further : Nat}

theorem of_error (ended : Ended spans begun (.error stop : Except Stop α)) :
    Ended spans begun (.error stop : Except Stop β) := by
  cases ended with
  | passed sound => exact .passed sound
  | broken sound failed same => exact .broken sound failed same
  | refused sound => exact .refused sound

theorem of_ok {value : α} (ended : Ended spans begun (.ok value : Except Stop α)) :
    begun = spans.length ∧ ∀ span ∈ spans, span.failed = false := by
  cases ended with
  | passed sound => exact ⟨rfl, sound⟩

theorem append {value : β} (first : Ended spans begun (.ok value : Except Stop β))
    (second : Ended more further outcome) : Ended (spans ++ more) (begun + further) outcome := by
  obtain ⟨rfl, sound⟩ := first.of_ok
  cases second with
  | passed later =>
    rw [← List.length_append]
    exact .passed (List.forall_mem_append.2 ⟨sound, later⟩)
  | @broken earlier last error later failed same =>
    rw [← List.length_append]
    refine .broken (List.forall_mem_append.2 ⟨sound, later⟩) failed ?_
    rw [same, List.append_assoc]
  | refused later =>
    rw [← Nat.add_assoc, ← List.length_append]
    exact .refused (List.forall_mem_append.2 ⟨sound, later⟩)

theorem undone (ended : Ended spans begun outcome) :
    spans.filter Span.undone = [] ∨ ∃ last, spans.getLast? = some last ∧ spans.filter Span.undone = [last] := by
  have spared {spans : List Span} (sound : ∀ span ∈ spans, span.failed = false) :
      spans.filter Span.undone = [] := by
    rw [List.filter_eq_nil_iff]
    intro span member undone
    rw [Span.undone, sound span member] at undone
    cases undone
  cases ended with
  | passed sound => exact .inl (spared sound)
  | refused sound => exact .inl (spared sound)
  | @broken earlier last error sound failed same =>
    rw [same, List.filter_append, spared sound, List.nil_append, List.filter_cons, List.filter_nil]
    -- Even the span that has failed is left alone if its transaction is rollback-only.
    split
    · exact .inr ⟨last, List.getLast?_concat, rfl⟩
    · exact .inl rfl

end Ended

namespace Turns

theorem of_error (turns : Turns plan asOf step history spans (.error stop : Except Stop α)) :
    Turns plan asOf step history spans (.error stop : Except Stop β) :=
  ⟨turns.laid, turns.named, turns.attempted, turns.ended.of_error⟩

theorem of_ok {value : α} {other : β} (turns : Turns plan asOf step history spans (.ok value : Except Stop α)) :
    Turns plan asOf step history spans (.ok other : Except Stop β) := by
  obtain ⟨count, sound⟩ := turns.ended.of_ok
  refine ⟨turns.laid, turns.named, turns.attempted, ?_⟩
  rw [count]
  exact .passed sound

theorem append {value : β} (first : Turns plan asOf step before spans (.ok value : Except Stop β))
    (paging : ∀ exchange ∈ before, exchange.isFinalizing = false)
    (second : Turns plan asOf (step + spans.length) after more outcome) :
    Turns plan asOf step (before ++ after) (spans ++ more) outcome := by
  refine ⟨first.laid.append second.laid, fun definition reply member => ?_, ?_, ?_⟩
  · rcases List.mem_append.1 member with member | member
    · exact first.named definition reply member
    · exact second.named definition reply member
  · rw [History.begins_append, History.attempts_append paging, first.attempted, second.attempted]
  · rw [History.begins_append]
    exact first.ended.append second.ended

theorem idle (apart : ∀ exchange ∈ history, exchange.isApart = true ∧ exchange.isBegin = false)
    (undue : history.attempts = 0) : Turns plan asOf step history [] outcome := by
  have unbegun : history.begins = 0 := by
    unfold History.begins
    rw [List.countP_eq_zero]
    intro exchange member begins
    rw [(apart exchange member).2] at begins
    cases begins
  have laid : Laid plan asOf step history [] := laid_of_apart fun exchange member => (apart exchange member).1
  refine ⟨laid, fun definition reply member => ?_, ?_, ?_⟩
  · cases (apart _ member).2
  · rw [unbegun, undue]
  · rw [unbegun]
    exact .passed (List.forall_mem_nil _)

theorem trail (turns : Turns plan asOf step before spans outcome)
    (paging : ∀ exchange ∈ before, exchange.isFinalizing = false)
    (aside : ∀ exchange ∈ after, exchange.isApart = true ∧ exchange.isPlain = true) :
    Turns plan asOf step (before ++ after) spans outcome := by
  have plain : ∀ exchange ∈ after, exchange.isPlain = true := fun exchange member => (aside exchange member).2
  have laid : Laid plan asOf (step + spans.length) after [] :=
    laid_of_apart fun exchange member => (aside exchange member).1
  have counts : History.begins (before ++ after) = before.begins := by
    rw [History.begins_append, History.begins_of_isPlain plain, Nat.add_zero]
  refine ⟨?_, fun definition reply member => ?_, ?_, ?_⟩
  · rw [← List.append_nil spans]
    exact turns.laid.append laid
  · rcases List.mem_append.1 member with member | member
    · exact turns.named definition reply member
    · cases (Exchange.of_isPlain (plain _ member)).1
  · rw [counts, History.attempts_append paging, History.attempts_of_isPlain plain, turns.attempted, Nat.add_zero]
  · rw [counts]
    exact turns.ended

theorem single {mark : Exchange} {span : Span} (due : mark.isAttempt = true)
    (kept : span.Kept (Run.stepQuestion plan asOf step)) (ended : Ended [span] 1 outcome) :
    Turns plan asOf step (mark :: span.history) [span] outcome := by
  obtain ⟨apart, unbegun, paging⟩ := Exchange.of_isAttempt due
  obtain ⟨begins, attempts, -⟩ := kept.tally
  have counts : History.begins (mark :: span.history) = 1 := by simp [unbegun, begins]
  refine ⟨?_, fun definition reply member => ?_, ?_, ?_⟩
  · have laid : Laid plan asOf step (span.history ++ []) [span] := .span kept .nil
    rw [List.append_nil] at laid
    exact .apart apart laid
  · rcases List.mem_cons.1 member with rfl | member
    · cases unbegun
    rcases List.mem_cons.1 member with same | member
    · cases same
      exact ⟨rfl, rfl⟩
    · cases (Exchange.of_isPlain (kept.inside _ member)).1
  · rw [counts]
    simp [paging, due, attempts]
  · rw [counts]
    exact ended

theorem refused {mark : Exchange} {error : TransactionError} (due : mark.isAttempt = true) :
    Turns plan asOf step
      [mark, ⟨.outside (.begin (.forReading Run.transactionName)), .returned (.error error)⟩] []
      (.error (.failed (.transaction error)) : Except Stop α) := by
  obtain ⟨apart, unbegun, paging⟩ := Exchange.of_isAttempt due
  refine ⟨.apart apart (.apart rfl .nil), fun definition reply member => ?_, ?_, ?_⟩
  · rcases List.mem_cons.1 member with rfl | member
    · cases unbegun
    · cases List.mem_singleton.1 member
      exact ⟨rfl, rfl⟩
  · rw [History.begins_cons, History.attempts_cons, unbegun, paging, due]
    rfl
  · rw [History.begins_cons, unbegun]
    exact .refused (List.forall_mem_nil _)

end Turns

end
end CatalogIndex
