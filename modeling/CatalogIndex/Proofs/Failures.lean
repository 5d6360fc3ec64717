import CatalogIndex.Proofs.Consulting
import CatalogIndex.Proofs.Following
import CatalogIndex.Proofs.Stages
/-!
The failures in a history. Work goes well up to a first failure, which it ends with, and then is only wound up.
Failures to roll back and failures to resolve a descriptor do not count.
-/
namespace CatalogIndex

/-- Whether a call only winds a rebuild up: it rolls something back, or belongs to the way out. -/
def Call.isClosing : Call → Bool
  | .perform .rollback => true
  | .outside (.finish _ .rollback) => true
  | .restore _ => true
  | .enter .failed => true
  | .release => true
  | _ => false

namespace Exchange

def isDeletion : Exchange → Bool
  | ⟨.perform (.delete _), _⟩ => true
  | _ => false

/-- What a rebuild has to end with after a call, if the call has failed. A commit that follows a deletion is part of
a clear. -/
def failure? (previous : Option Exchange) : Exchange → Option RebuildError
  | ⟨.perform (.delete _), .error error⟩ => some (.deleteFailed error)
  | ⟨.perform .commit, .error error⟩ =>
    some (if previous.any isDeletion then .deleteFailed error else .rebuildFailed error)
  | ⟨.perform (.add _), .error error⟩ => some (.rebuildFailed error)
  | ⟨.perform .optimize, .error error⟩ => some (.rebuildFailed error)
  | ⟨.swap, .error error⟩ => some (.rebuildFailed error)
  | ⟨.outside (.count _), .returned (.error error)⟩ => some (.catalog error)
  | ⟨.outside (.page ..), .returned (.error error)⟩ => some (.catalog error)
  | ⟨.outside .descriptors, .returned (.error error)⟩ => some (.catalog error)
  | ⟨.outside .locales, .returned (.error error)⟩ => some (.catalog error)
  | ⟨.outside (.handler (.attach ..)), .returned (Attachment.mk _ (.error error))⟩ => some (.extension error)
  | ⟨.outside (.begin _), .returned (.error error)⟩ => some (.transaction error)
  | ⟨.outside (.finish _ .commit), .returned (.error error)⟩ => some (.transaction error)
  | _ => none

def fails (exchange : Exchange) : Bool := (exchange.failure? none).isSome

/-- Whether a handler has replied to a descriptor that it was to resolve, with values or with a failure. -/
def isResolution : Exchange → Bool
  | ⟨.outside (.handler (.resolve ..)), .returned _⟩ => true
  | _ => false

theorem fails_of_failure? {previous : Option Exchange} {exchange : Exchange} {error : RebuildError}
    (failed : exchange.failure? previous = some error) : exchange.fails = true := by
  unfold fails
  unfold failure? at failed ⊢
  split at failed <;> first | rfl | cases failed

theorem not_fails_of_closing {exchange : Exchange} (closing : exchange.1.isClosing = true) :
    exchange.fails = false := by
  cases failed : exchange.failure? none with
  | none => rw [fails, failed]; rfl
  | some error =>
    unfold failure? at failed
    split at failed <;> first | cases closing | cases failed

theorem forward_of_isResolution {exchange : Exchange} (resolution : exchange.isResolution = true) :
    exchange.1.isClosing = false := by
  unfold isResolution at resolution
  split at resolution
  · rfl
  · cases resolution

theorem not_isResolution_of_fails {exchange : Exchange} (fails : exchange.fails = true) :
    exchange.isResolution = false := by
  cases failed : exchange.failure? none with
  | none =>
    rw [Exchange.fails, failed] at fails
    cases fails
  | some error =>
    unfold failure? at failed
    split at failed <;> first | rfl | cases failed

theorem not_fails_of_panic (question : Outside) (text : String) :
    fails ⟨.outside question, .panicked text⟩ = false := by
  cases question with
  | finish transaction ending => cases ending <;> rfl
  | handler question => cases question <;> rfl
  | _ => rfl

end Exchange

def Smooth (history : History) : Prop := ∀ exchange ∈ history, exchange.fails = false

/-- A history that goes well up to a call whose failure has to end the rebuild, and is then only wound up. What was
called before it must not matter. -/
inductive Fails (error : RebuildError) : History → Prop where
  | intro {before after : History} {exchange : Exchange} (smooth : Smooth before)
      (failed : ∀ previous, exchange.failure? (before.getLast?.or previous) = some error)
      (closing : ∀ later ∈ after, later.1.isClosing = true) : Fails error (before ++ exchange :: after)

theorem History.places {first last before after : History} {exchange other : Exchange}
    (same : before ++ exchange :: after = first ++ other :: last) :
    (∃ middle, first = before ++ exchange :: middle ∧ after = middle ++ other :: last) ∨
      (before = first ∧ exchange = other ∧ after = last) ∨
      ∃ middle, before = first ++ other :: middle ∧ last = middle ++ exchange :: after := by
  rcases List.append_eq_append_iff.1 same with ⟨between, rfl, rest⟩ | ⟨between, rfl, rest⟩
  · cases between with
    | nil =>
      cases rest
      exact .inr (.inl ⟨(List.append_nil _).symm, rfl, rfl⟩)
    | cons found middle =>
      cases rest
      exact .inl ⟨middle, rfl, rfl⟩
  · cases between with
    | nil =>
      cases rest
      exact .inr (.inl ⟨List.append_nil _, rfl, rfl⟩)
    | cons found middle =>
      cases rest
      exact .inr (.inr ⟨middle, rfl, rfl⟩)

section

variable {first second before after history : History} {exchange other : Exchange}

theorem History.mem_of_split (split : history = before ++ exchange :: after) : exchange ∈ history :=
  split ▸ List.mem_append_right _ List.mem_cons_self

theorem History.cut (same : first ++ second = before ++ exchange :: after) :
    (∃ rest, first = before ++ exchange :: rest ∧ after = rest ++ second) ∨
      ∃ middle, before = first ++ middle ∧ second = middle ++ exchange :: after := by
  rcases List.append_eq_append_iff.1 same with ⟨middle, rfl, rfl⟩ | ⟨rest, rfl, right⟩
  · exact .inr ⟨middle, rfl, rfl⟩
  · cases rest with
    | nil => exact .inr ⟨[], by simp, right.symm⟩
    | cons head rest =>
      obtain ⟨rfl, rfl⟩ := List.cons.inj right
      exact .inl ⟨rest, rfl, rfl⟩

theorem History.cut_of_not_mem_left (same : first ++ second = before ++ exchange :: after) (absent : exchange ∉ first) :
    ∃ middle, before = first ++ middle ∧ second = middle ++ exchange :: after := by
  rcases cut same with ⟨rest, inside, -⟩ | found
  · exact absurd (mem_of_split inside) absent
  · exact found

theorem History.cut_of_ne_head (same : other :: history = before ++ exchange :: after) (differs : exchange ≠ other) :
    ∃ later, before = other :: later ∧ history = later ++ exchange :: after := by
  have absent : exchange ∉ [other] := mt List.mem_singleton.1 differs
  exact cut_of_not_mem_left same absent

theorem History.cut_of_not_mem_right (same : first ++ second = before ++ exchange :: after)
    (absent : exchange ∉ second) : ∃ rest, first = before ++ exchange :: rest ∧ after = rest ++ second := by
  rcases cut same with found | ⟨middle, -, inside⟩
  · exact found
  · exact absurd (mem_of_split inside) absent

end

section

variable {exchange other : Exchange} {before after history : History} {error : RebuildError}

theorem smooth_nil : Smooth [] := List.forall_mem_nil _

@[simp] theorem smooth_cons : Smooth (exchange :: history) ↔ exchange.fails = false ∧ Smooth history :=
  List.forall_mem_cons

@[simp] theorem smooth_append : Smooth (before ++ after) ↔ Smooth before ∧ Smooth after := List.forall_mem_append

theorem smooth_of_closing (closing : ∀ later ∈ after, later.1.isClosing = true) : Smooth after :=
  fun later member => Exchange.not_fails_of_closing (closing later member)

namespace Fails

theorem single (failed : ∀ previous, exchange.failure? previous = some error) : Fails error [exchange] :=
  .intro smooth_nil failed (List.forall_mem_nil _)

theorem append_left (smooth : Smooth before) (fails : Fails error history) : Fails error (before ++ history) := by
  obtain @⟨first, last, exchange, sound, failed, closing⟩ := fails
  rw [← List.append_assoc]
  refine .intro (smooth_append.2 ⟨smooth, sound⟩) (fun previous => ?_) closing
  rw [List.getLast?_append, Option.or_assoc]
  exact failed _

theorem append_right (fails : Fails error history) (closing : ∀ later ∈ after, later.1.isClosing = true) :
    Fails error (history ++ after) := by
  obtain ⟨first, failed, closes⟩ := fails
  rw [List.append_assoc, List.cons_append]
  exact .intro first failed (List.forall_mem_append.2 ⟨closes, closing⟩)

theorem cons (smooth : exchange.fails = false) (fails : Fails error history) : Fails error (exchange :: history) :=
  append_left (smooth_cons.2 ⟨smooth, smooth_nil⟩) fails

theorem unique (fails : Fails error (before ++ exchange :: after)) (failed : exchange.fails = true) :
    Smooth before ∧ exchange.failure? before.getLast? = some error ∧
      ∀ later ∈ after, later.1.isClosing = true := by
  generalize whole : before ++ exchange :: after = history at fails
  obtain @⟨first, last, cause, smooth, told, closing⟩ := fails
  -- Elsewhere it would stand where all goes well, or among the calls that only wind up.
  rcases History.places whole with ⟨middle, rfl, -⟩ | ⟨rfl, rfl, rfl⟩ | ⟨middle, -, rfl⟩
  · have sound := smooth exchange (List.mem_append_right _ List.mem_cons_self)
    rw [failed] at sound
    cases sound
  · have here := told none
    rw [Option.or_none] at here
    exact ⟨smooth, here, closing⟩
  · have sound := smooth_of_closing closing exchange (List.mem_append_right _ List.mem_cons_self)
    rw [failed] at sound
    cases sound

end Fails

theorem smooth_single (sound : exchange.fails = false) : Smooth [exchange] := smooth_cons.2 ⟨sound, smooth_nil⟩

/-- The last call of a history that does not only wind the rebuild up. -/
inductive Last (exchange : Exchange) : History → Prop where
  | intro {before after : History} (forward : exchange.1.isClosing = false)
      (closing : ∀ later ∈ after, later.1.isClosing = true) : Last exchange (before ++ exchange :: after)

theorem Last.single (forward : exchange.1.isClosing = false) : Last exchange [exchange] :=
  @Last.intro exchange [] [] forward (List.forall_mem_nil _)

theorem Last.append_left (last : Last exchange history) : Last exchange (before ++ history) := by
  obtain @⟨first, rest, forward, closing⟩ := last
  rw [← List.append_assoc]
  exact .intro forward closing

theorem Last.append_right (last : Last exchange history) (closing : ∀ later ∈ after, later.1.isClosing = true) :
    Last exchange (history ++ after) := by
  obtain ⟨forward, closes⟩ := last
  rw [List.append_assoc, List.cons_append]
  exact .intro forward (List.forall_mem_append.2 ⟨closes, closing⟩)

theorem Last.mem (last : Last exchange history) : exchange ∈ history := by
  obtain ⟨forward, closing⟩ := last
  exact List.mem_append_right _ List.mem_cons_self

theorem Last.forward (last : Last exchange history) : exchange.1.isClosing = false := by
  obtain ⟨forward, -⟩ := last
  exact forward

theorem Fails.last (fails : Fails error history) : ∃ exchange, exchange.fails = true ∧ Last exchange history := by
  obtain @⟨before, after, exchange, smooth, failed, closing⟩ := fails
  have fatal := Exchange.fails_of_failure? (failed none)
  refine ⟨exchange, fatal, .intro ?_ closing⟩
  rw [← Bool.not_eq_true]
  intro closes
  rw [Exchange.not_fails_of_closing closes] at fatal
  cases fatal

theorem any_fails_of_smooth (smooth : Smooth history) : history.any Exchange.fails = false := by
  rw [List.any_eq_false]
  intro exchange member failed
  rw [smooth exchange member] at failed
  cases failed

theorem any_fails_of_fails {error : RebuildError} (fails : Fails error history) :
    history.any Exchange.fails = true := by
  obtain ⟨exchange, fatal, last⟩ := fails.last
  exact List.any_eq_true.2 ⟨exchange, last.mem, fatal⟩

theorem Last.mem_after (last : Last other (before ++ exchange :: after)) (differs : exchange ≠ other)
    (forward : exchange.1.isClosing = false) : other ∈ after := by
  generalize same : before ++ exchange :: after = history at last
  obtain @⟨first, rest, -, closing⟩ := last
  rcases History.places same with ⟨middle, -, rfl⟩ | ⟨-, rfl, -⟩ | ⟨middle, -, rfl⟩
  · exact List.mem_append_right _ List.mem_cons_self
  · exact absurd rfl differs
  · have closes := closing exchange (List.mem_append_right _ List.mem_cons_self)
    rw [forward] at closes
    cases closes

end

/-- An outcome of work that tells the failures of its history: there is none, or the outcome is the only one. A
panic is no failure, but nothing comes after it either. -/
inductive Tells {α : Type} (history : History) : Except Stop α → Prop where
  | passed {value : α} (smooth : Smooth history) : Tells history (.ok value)
  | failed {error : RebuildError} (fails : Fails error history) : Tells history (.error (.failed error))
  | panicked {question : Outside} {text : String} (smooth : Smooth history)
      (last : Last ⟨.outside question, .panicked text⟩ history) : Tells history (.error (.panicked text))

namespace Tells

variable {α β : Type} {before after history : History} {outcome : Except Stop α} {stop : Stop}

theorem append_left (smooth : Smooth before) (tells : Tells history outcome) : Tells (before ++ history) outcome := by
  cases tells with
  | passed later => exact .passed (smooth_append.2 ⟨smooth, later⟩)
  | failed fails => exact .failed (fails.append_left smooth)
  | panicked later last => exact .panicked (smooth_append.2 ⟨smooth, later⟩) last.append_left

theorem panic {question : Outside} {text : String} (forward : (Call.outside question).isClosing = false) :
    Tells [⟨.outside question, .panicked text⟩] (.error (.panicked text) : Except Stop α) :=
  .panicked (smooth_single (Exchange.not_fails_of_panic question text)) (.single forward)

theorem cons {exchange : Exchange} (sound : exchange.fails = false) (tells : Tells history outcome) :
    Tells (exchange :: history) outcome := append_left (smooth_single sound) tells

theorem of_lost {ε : Type} {wrap : ε → RebuildError} {answer : Answer (Except ε β)}
    {exchange : Answer (Except ε β) → Exchange}
    (fails : ∀ error previous, (exchange (.returned (.error error))).failure? previous = some (wrap error))
    (panics : ∀ text, Tells [exchange (.panicked text)] (.error (.panicked text) : Except Stop α))
    (lost : Run.Lost wrap answer stop) : Tells [exchange answer] (.error stop : Except Stop α) := by
  cases lost with
  | failed error => exact .failed (.single (fails error))
  | panicked text => exact panics text

theorem of_error (tells : Tells history (.error stop : Except Stop α)) :
    Tells history (.error stop : Except Stop β) := by
  cases tells with
  | failed fails => exact .failed fails
  | panicked smooth last => exact .panicked smooth last

end Tells

namespace Heard

variable {request : RequestContext} {replies : List Consulted} {failure : Option ExtensionError}

theorem smooth (heard : Heard request replies failure) (sound : failure = none) : Smooth (replies.map told) := by
  induction heard with
  | nil => exact smooth_nil
  | failed additions error => cases sound
  | attached additions taken heard ih => exact smooth_cons.2 ⟨rfl, ih sound⟩
  | resolved reply behalf heard ih => exact smooth_cons.2 ⟨rfl, ih sound⟩

theorem fails {error : ExtensionError} (heard : Heard request replies failure) (failed : failure = some error) :
    Fails (.extension error) (replies.map told) := by
  induction heard with
  | nil => cases failed
  | failed additions cause =>
    cases failed
    exact .single fun previous => rfl
  | attached additions taken heard ih => exact (ih failed).cons rfl
  | resolved reply behalf heard ih => exact (ih failed).cons rfl

end Heard

namespace Run

variable {α : Type} {plan : Plan} {asOf : Instant} {request : RequestContext} {page : Nat}
  {known : Option (List Locale)} {history : History}

theorem smooth_clearing : Smooth (clearing.map asked) := by
  apply smooth_cons.2
  exact ⟨rfl, smooth_single rfl⟩

theorem smooth_writing (documents : List Document) : Smooth ((writing documents).map asked) := by
  unfold writing
  split
  · exact smooth_nil
  · exact smooth_cons.2 ⟨rfl, smooth_single rfl⟩

theorem fails_of_brokenClear {error : SearchError} {requests : List Request} (broken : BrokenClear error requests) :
    Fails (.deleteFailed error) (requests.map asked) := by
  cases broken with
  | delete => exact .single fun previous => rfl
  | commit =>
    have deleted : Smooth [asked (granted (.delete allDocuments))] := smooth_single rfl
    exact .intro deleted (fun previous => rfl) (List.forall_mem_nil _)

theorem fails_of_brokenWrite {documents : List Document} {error : SearchError} {requests : List Request}
    (broken : BrokenWrite documents error requests) : Fails (.rebuildFailed error) (requests.map asked) := by
  cases broken with
  | add reply => exact .intro smooth_nil (fun previous => rfl) (List.forall_mem_singleton.2 rfl)
  | commit reply =>
    have added : Smooth [asked (granted (.add documents))] := smooth_single rfl
    exact .intro added (fun previous => rfl) (List.forall_mem_singleton.2 rfl)

theorem tells_of_countWork {outcome : Except Stop UInt64} (goes : Goes (countWork asOf) history outcome) :
    Tells history outcome := by
  rcases goes_bind.1 goes with ⟨stop, first, rfl⟩ | ⟨reply, before, rest, first, second, rfl⟩
  · obtain ⟨text, rfl, rfl⟩ := goes_outside_error.1 first
    exact .panic rfl
  · obtain rfl := goes_outside_ok.1 first
    obtain ⟨rfl, rfl⟩ := goes_expect.1 second
    cases reply with
    | error error => exact .failed (.single fun previous => rfl)
    | ok total => exact .passed (smooth_single rfl)

theorem Located.smooth {locating : History} {locales : List Locale} (located : Located known locating locales) :
    Smooth locating := by
  cases located with
  | known => exact smooth_nil
  | read => exact smooth_single rfl

theorem Builds.tells {outcome : Except Stop (List Document × List Locale)}
    (builds : Builds plan asOf request page known history outcome) : Tells history outcome := by
  have consults (items : List Item) (descriptors : List Descriptor) (locales : List Locale) :=
    plan.builder.consults_buildAll items descriptors locales request
  cases builds with
  | unread lost =>
    exact .of_lost (fun _ _ => rfl) (fun _ => .panic rfl) lost
  | undescribed lost =>
    apply Tells.cons rfl
    exact .of_lost (fun _ _ => rfl) (fun _ => .panic rfl) lost
  | unlocated lost =>
    apply Tells.cons rfl
    apply Tells.cons rfl
    exact .of_lost (fun _ _ => rfl) (fun _ => .panic rfl) lost
  | unheard located unanswered =>
    apply Tells.cons rfl
    apply Tells.cons rfl
    apply Tells.append_left located.smooth
    apply Tells.append_left (((consults _ _ _).heard_of_unanswered unanswered).smooth rfl)
    exact .panic rfl
  | unbuilt located answered =>
    apply Tells.cons rfl
    apply Tells.cons rfl
    apply Tells.append_left located.smooth
    exact .failed (((consults _ _ _).heard_of_path answered).fails rfl)
  | built located answered =>
    apply Tells.cons rfl
    apply Tells.cons rfl
    apply Tells.append_left located.smooth
    exact .passed (((consults _ _ _).heard_of_path answered).smooth rfl)

theorem tells_of_writePage {outcome : Except Stop (Nat × List Locale)}
    (goes : Goes (writePage plan asOf request page known) history outcome) : Tells history outcome := by
  cases goes_writePage goes with
  | unbuilt builds => exact builds.tells.of_error
  | unwritten builds nonempty broken =>
    cases builds.tells with
    | passed smooth => exact .failed ((fails_of_brokenWrite broken).append_left smooth)
  | written builds =>
    cases builds.tells with
    | passed smooth => exact .passed (smooth_append.2 ⟨smooth, smooth_writing _⟩)

namespace Finishes

variable {transaction : Transaction} {isError : Bool}

theorem asked_of_ending {ending : Ending} (asks : transaction.ending isError = some ending) :
    ending = if isError then .rollback else .commit := by
  unfold Transaction.ending at asks
  split at asks
  · cases asks
  · exact (Option.some.inj asks).symm

theorem smooth (finishes : Finishes transaction isError history (.ok (.ok ()))) : Smooth history := by
  generalize same : (Except.ok (.ok ()) : Except Stop (Except TransactionError Unit)) = outcome at finishes
  cases finishes with
  | left => exact smooth_nil
  | @asked ending asks answer =>
    cases answer with
    | panicked text => cases same
    | returned reply =>
      cases same
      cases ending <;> exact smooth_single rfl

theorem fails {error : TransactionError} (finishes : Finishes transaction false history (.ok (.error error))) :
    Fails (.transaction error) history := by
  generalize same : (Except.ok (.error error) : Except Stop (Except TransactionError Unit)) = outcome at finishes
  cases finishes with
  | left => cases same
  | asked asks answer =>
    rw [asked_of_ending asks]
    cases answer with
    | panicked text => cases same
    | returned reply =>
      cases same
      exact .single fun previous => rfl

theorem closing {outcome : Except Stop (Except TransactionError Unit)}
    (finishes : Finishes transaction true history outcome) : ∀ later ∈ history, later.1.isClosing = true := by
  cases finishes with
  | left => exact List.forall_mem_nil _
  | asked asks answer =>
    rw [asked_of_ending asks]
    exact List.forall_mem_singleton.2 rfl

theorem unfinished {stop : Stop} (finishes : Finishes transaction isError history (.error stop)) :
    ∃ text, stop = .panicked text ∧
      history = [⟨.outside (.finish transaction (if isError then .rollback else .commit)), .panicked text⟩] := by
  generalize same : (Except.error stop : Except Stop (Except TransactionError Unit)) = outcome at finishes
  cases finishes with
  | left => cases same
  | asked asks answer =>
    rw [asked_of_ending asks]
    cases answer with
    | returned reply => cases same
    | panicked text =>
      cases same
      exact ⟨text, rfl, rfl⟩

end Finishes
end Run

end CatalogIndex
