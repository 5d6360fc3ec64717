import CatalogIndex.Proofs.Attempts
import CatalogIndex.Proofs.Faultless
import CatalogIndex.Proofs.Paging
/-!
The phases of a rebuild. They are entered in one order, up to the phase in which the rebuild is stopped, and what is
entered last tells whether it has succeeded. Each request is made in a phase of its own.
-/
namespace CatalogIndex

def Exchange.entered? : Exchange → Option Phase
  | ⟨.enter phase, _⟩ => some phase
  | _ => none

namespace History

variable {before after history : History}

def phases (history : History) : List Phase := history.filterMap Exchange.entered?

def phaseAfter (history : History) (phase : Phase) : Phase := history.phases.getLast?.getD phase

@[simp] theorem phases_append : phases (before ++ after) = phases before ++ phases after := List.filterMap_append

@[simp] theorem phases_cons (exchange : Exchange) :
    phases (exchange :: history) = exchange.entered?.toList ++ phases history := by
  cases same : exchange.entered? <;> simp [phases, same]

@[simp] theorem phases_asked (requests : List Request) : phases (requests.map asked) = [] := by
  simp [phases, asked, Exchange.entered?]

theorem phases_of_pages (pages : ∀ exchange ∈ history, exchange.1.isPaging = true) : history.phases = [] := by
  unfold phases
  rw [List.filterMap_eq_nil_iff]
  intro exchange member
  have paging := pages exchange member
  obtain ⟨call, reply⟩ := exchange
  cases call <;> first | rfl | cases paging

end History

namespace Phase

def inOrder : List Phase := [preparing, paging, finalizing, swapping, cleaning]

/-- Whether a call may be made in a phase: generations are cleared, filled, compacted and swapped in phases of
their own. -/
def Allows (phase : Phase) : Call → Prop
  | .perform (.delete _) => phase = preparing ∨ phase = cleaning
  | .perform (.add _) => phase = paging
  | .perform .commit => phase = preparing ∨ phase = paging ∨ phase = cleaning
  | .perform .rollback => phase = paging
  | .perform .optimize => phase = finalizing
  | .swap => phase = swapping
  | _ => True

def after (phase : Phase) : Call → Phase
  | .enter next => next
  | _ => phase

end Phase

def Orderly : Phase → History → Prop
  | _, [] => True
  | phase, ⟨call, _⟩ :: rest => phase.Allows call ∧ Orderly (phase.after call) rest

/-- What phases a rebuild enters, by how it ends. A panic stops it where it is. One panic, that of the party that takes
note of the completion, comes after success has been entered: the call unwinds out of `done`. -/
inductive Passes : List Phase → Except Stop Report → Prop where
  | succeeded (report : Report) : Passes (Phase.inOrder ++ [.done]) (.ok report)
  | failed {reached : List Phase} (error : RebuildError) (begins : reached <+: Phase.inOrder) :
      Passes (reached ++ [.failed]) (.error (.failed error))
  | panicked {reached : List Phase} (text : String) (begins : reached <+: Phase.inOrder) :
      Passes reached (.error (.panicked text))
  | unheard (text : String) : Passes (Phase.inOrder ++ [.done]) (.error (.panicked text))

section

variable {before after history : History} {phase : Phase}

theorem Phase.phaseAfter_cons (call : Call) (reply : call.Reply) :
    History.phaseAfter (⟨call, reply⟩ :: history) phase = history.phaseAfter (phase.after call) := by
  unfold History.phaseAfter
  cases call with
  | enter next =>
    show (next :: history.phases).getLast?.getD phase = _
    rw [List.getLast?_cons]
    rfl
  | _ => rfl

theorem orderly_append : Orderly phase (before ++ after) ↔
    Orderly phase before ∧ Orderly (before.phaseAfter phase) after := by
  induction before generalizing phase with
  | nil => exact ⟨fun orderly => ⟨trivial, orderly⟩, fun both => both.2⟩
  | cons exchange before ih =>
    obtain ⟨call, reply⟩ := exchange
    rw [Phase.phaseAfter_cons]
    show _ ∧ Orderly _ (before ++ after) ↔ (_ ∧ _) ∧ _
    rw [ih, and_assoc]

theorem allows_of_orderly {i : Nat} {call : Call} {reply : call.Reply} (orderly : Orderly phase history)
    (found : history[i]? = some ⟨call, reply⟩) : (History.phaseAfter (history.take i) phase).Allows call := by
  induction history generalizing phase i with
  | nil => cases found
  | cons exchange rest ih =>
    cases i with
    | zero =>
      cases found
      exact orderly.1
    | succ i =>
      obtain ⟨other, answer⟩ := exchange
      rw [List.take_succ_cons, Phase.phaseAfter_cons]
      exact ih orderly.2 found

theorem orderly_of_pages (pages : ∀ exchange ∈ history, exchange.1.isPaging = true) :
    Orderly .paging history := by
  induction history with
  | nil => trivial
  | cons exchange history ih =>
    obtain ⟨first, later⟩ := List.forall_mem_cons.1 pages
    obtain ⟨call, reply⟩ := exchange
    cases call with
    | perform operation =>
      refine ⟨?_, ih later⟩
      cases operation <;> first | rfl | exact .inr (.inl rfl) | cases first
    | isCancelled => exact ⟨trivial, ih later⟩
    | outside question => exact ⟨trivial, ih later⟩
    | _ => cases first

end

namespace Run

variable {plan : Plan} {asOf : Instant} {request : RequestContext} {history after : History}

theorem orderly_of_brokenClear {phase : Phase} {error : SearchError} {requests : List Request}
    (broken : BrokenClear error requests) (clears : phase = .preparing ∨ phase = .cleaning) :
    Orderly phase (requests.map asked) := by
  have commits : phase = .preparing ∨ phase = .paging ∨ phase = .cleaning := by
    rcases clears with same | same
    · exact .inl same
    · exact .inr (.inr same)
  cases broken with
  | delete => exact ⟨clears, trivial⟩
  | commit => exact ⟨clears, commits, trivial⟩

theorem orderly_cleared (isShared : Bool) : Orderly .preparing (cleared isShared) :=
  ⟨trivial, .inl rfl, .inl rfl, trivial, trivial⟩

theorem Fills.passage {isShared : Bool} {progress : Progress}
    (fills : Fills plan asOf request isShared history progress) :
    Orderly .preparing history ∧ history.phases = [.paging] := by
  cases fills with
  | filled counts sweeps =>
    have pages := List.forall_mem_append.2 ⟨pages_of_count counts, sweeps.pages rfl⟩
    refine ⟨orderly_append.2 ⟨orderly_cleared _, orderly_of_pages pages⟩, ?_⟩
    rw [History.phases_append, History.phases_of_pages pages]
    rfl

theorem Phases.passage {outcome : Except Stop Report} (phases : Phases plan asOf request history outcome) :
    Orderly .preparing history ∧ .preparing :: history.phases <+: Phase.inOrder ∧
      ∀ report, outcome = .ok report → .preparing :: history.phases = Phase.inOrder := by
  -- When all pages have been written the phase is `paging`, and the others are entered from there.
  have onward {isShared : Bool} {filling ending : History} {progress : Progress} {outcome : Except Stop Report}
      (fills : Fills plan asOf request isShared filling progress) (orderly : Orderly .paging ending)
      (begins : .preparing :: .paging :: ending.phases <+: Phase.inOrder)
      (all : ∀ report, outcome = .ok report → .preparing :: .paging :: ending.phases = Phase.inOrder) :
      Orderly .preparing (filling ++ ending) ∧ .preparing :: History.phases (filling ++ ending) <+: Phase.inOrder ∧
        ∀ report, outcome = .ok report → .preparing :: History.phases (filling ++ ending) = Phase.inOrder := by
    obtain ⟨before, entered⟩ := fills.passage
    have reached : filling.phaseAfter .preparing = .paging := by
      unfold History.phaseAfter
      rw [entered]
      rfl
    rw [orderly_append, reached, History.phases_append, entered]
    exact ⟨⟨before, orderly⟩, begins, all⟩
  have paged : [.preparing, .paging] <+: Phase.inOrder := ⟨_, rfl⟩
  cases phases with
  | uncleared broken =>
    refine ⟨⟨trivial, orderly_of_brokenClear broken (.inl rfl)⟩, ?_, vacuous_of_error _⟩
    rw [History.phases_cons, History.phases_asked]
    exact ⟨_, rfl⟩
  | uncounted counts =>
    have pages := pages_of_count counts
    refine ⟨orderly_append.2 ⟨orderly_cleared _, orderly_of_pages pages⟩, ?_, vacuous_of_error _⟩
    rw [History.phases_append, History.phases_of_pages pages]
    exact paged
  | unswept counts sweeps =>
    have pages := List.forall_mem_append.2 ⟨pages_of_count counts, sweeps.pages rfl⟩
    refine ⟨orderly_append.2 ⟨orderly_cleared _, orderly_of_pages pages⟩, ?_, vacuous_of_error _⟩
    rw [History.phases_append, History.phases_of_pages pages]
    exact paged
  | uncompacted fills =>
    exact onward fills ⟨trivial, rfl, trivial⟩ ⟨_, rfl⟩ (vacuous_of_error _)
  | cancelled fills =>
    exact onward fills ⟨trivial, rfl, trivial, trivial⟩ ⟨_, rfl⟩ (vacuous_of_error _)
  | unswapped fills =>
    exact onward fills ⟨trivial, rfl, trivial, trivial, rfl, trivial⟩ ⟨_, rfl⟩ (vacuous_of_error _)
  | @uncleaned filling progress swapped error requests fills broken =>
    have clears : Phase.cleaning = .preparing ∨ Phase.cleaning = .cleaning := .inr rfl
    have cleaning := orderly_of_brokenClear broken clears
    refine onward fills ⟨trivial, rfl, trivial, trivial, rfl, trivial, cleaning⟩ ?_ (vacuous_of_error _)
    simp only [History.phases_append, History.phases_cons, History.phases_asked]
    exact ⟨_, rfl⟩
  | @finished isShared filling progress swapped fills =>
    cases isShared with
    | true => exact onward fills ⟨trivial, rfl, trivial, trivial, rfl, trivial, trivial⟩ ⟨_, rfl⟩ fun _ _ => rfl
    | false =>
      refine onward fills ⟨trivial, rfl, trivial, trivial, rfl, trivial, .inr rfl, ?_, trivial⟩ ⟨_, rfl⟩ fun _ _ => rfl
      exact .inr (.inr rfl)

theorem Rebuilds.passage {outcome : Except Stop Report} (rebuilds : Rebuilds plan asOf history outcome) :
    history = [⟨.acquire, false⟩] ∨
      (∀ phase, Orderly phase history) ∧ Passes history.phases outcome ∧
        history.getLast? = some ⟨.release, ()⟩ := by
  -- What is called before the phases and after them is allowed in any phase.
  have around {request : RequestContext} {middle ending : History} (orderly : Orderly .preparing middle)
      (closing : ∀ phase, Orderly phase ending) (phase : Phase) :
      Orderly phase (entered request ++ (middle ++ ending)) := by
    have opened : Orderly .preparing (middle ++ ending) := orderly_append.2 ⟨orderly, closing _⟩
    exact ⟨trivial, trivial, trivial, opened⟩
  have phased (request : RequestContext) (middle ending : History) :
      History.phases (entered request ++ (middle ++ ending)) = (.preparing :: middle.phases) ++ ending.phases := by
    rw [History.phases_append, History.phases_append]
    rfl
  cases rebuilds with
  | rejected => exact .inl rfl
  | @panicked request middle text phases =>
    obtain ⟨orderly, begins, -⟩ := phases.passage
    refine .inr ⟨around orderly fun _ => ⟨trivial, trivial, trivial⟩, ?_, ?_⟩
    · rw [phased]
      show Passes (_ ++ []) _
      rw [List.append_nil]
      exact .panicked text begins
    · rw [← List.append_assoc, List.getLast?_append]
      rfl
  | @failed request middle error phases =>
    obtain ⟨orderly, begins, -⟩ := phases.passage
    refine .inr ⟨around orderly fun _ => ⟨trivial, trivial, trivial, trivial⟩, ?_, ?_⟩
    · rw [phased]
      exact .failed error begins
    · rw [← List.append_assoc, List.getLast?_append]
      rfl
  | @completed request middle report answer phases =>
    obtain ⟨orderly, -, all⟩ := phases.passage
    refine .inr ⟨around orderly fun _ => ⟨trivial, trivial, trivial, trivial, trivial⟩, ?_, ?_⟩
    · rw [phased, all report rfl]
      cases answer with
      | returned reply => exact .succeeded _
      | panicked text => exact .unheard text
    · rw [← List.append_assoc, List.getLast?_append]
      rfl

end Run

namespace Site

variable {γ : Type} [Engine γ] {site last : Site γ} {history : History}

theorem Leads.phase (leads : site.Leads history last) : last.phase = history.phaseAfter site.phase := by
  induction leads with
  | nil site => rfl
  | @cons site last call reply rest gives leads ih =>
    rw [ih, Phase.phaseAfter_cons]
    cases call <;> rfl

theorem Leads.released (leads : site.Leads history last) (releases : history.getLast? = some ⟨.release, ()⟩) :
    last.running = false := by
  obtain ⟨front, rfl⟩ := List.getLast?_eq_some_iff.1 releases
  obtain ⟨middle, -, final⟩ := leads_append.1 leads
  cases final with
  | cons gives ends =>
    cases ends
    rfl

end Site

namespace World

variable {γ σ : Type} [Engine γ]

/-- The worlds in which a rebuild may be started from outside: at first none has run, and whatever has become of the
generations and of the ambience after some rebuild, its phase and its running mark are as the rebuild has left
them. -/
inductive Reached (plan : Plan) : World γ σ → Prop where
  | fresh {world : World γ σ} (idle : world.site.phase = .idle) (free : world.site.running = false) :
      Reached plan world
  | rebuilt {world next : World γ σ} (reached : Reached plan world) (surroundings : Surroundings σ) (asOf : Instant)
      (phase : next.site.phase = (world.rebuild plan surroundings asOf).2.site.phase)
      (running : next.site.running = (world.rebuild plan surroundings asOf).2.site.running) : Reached plan next

structure Exclusive (plan : Plan) (surroundings : Surroundings σ) (asOf : Instant) (world : World γ σ) : Prop where
  accepted : (world.history plan surroundings asOf).head? = some ⟨.acquire, true⟩
  released : (world.rebuild plan surroundings asOf).2.site.running = false
  passes : Passes (world.history plan surroundings asOf).phases (world.rebuild plan surroundings asOf).1
  points : (world.course plan surroundings asOf).length = (world.history plan surroundings asOf).length + 1
  phase : ∀ (i : Nat) (later : World γ σ), (world.course plan surroundings asOf)[i]? = some later →
    later.site.phase = History.phaseAfter ((world.history plan surroundings asOf).take i) world.site.phase
  allowed : ∀ (i : Nat) (later : World γ σ) (call : Call) (reply : call.Reply),
    (world.course plan surroundings asOf)[i]? = some later →
      (world.history plan surroundings asOf)[i]? = some ⟨call, reply⟩ → later.site.phase.Allows call
  /-- Whatever rebuilds a party attempts before it replies are refused, and leave the world as it is. -/
  refused : ∀ (i : Nat) (later : World γ σ) (question : Outside) (answer : Answer question.Reply),
    (world.course plan surroundings asOf)[i]? = some later →
      (world.history plan surroundings asOf)[i]? = some ⟨.outside question, answer⟩ →
        (∀ exchange ∈ (surroundings.answer question later.ambience).transcript (attempt plan surroundings 1) later,
          exchange.2 = .error (.failed .alreadyRunning)) ∧
        ((surroundings.answer question later.ambience).exec (attempt plan surroundings 1) later).2 = later
  alone : world.rebuild plan surroundings.alone asOf = world.rebuild plan surroundings asOf ∧
    world.history plan surroundings.alone asOf = world.history plan surroundings asOf ∧
    world.course plan surroundings.alone asOf = world.course plan surroundings asOf

variable {plan : Plan} {surroundings : Surroundings σ} {asOf : Instant} {world : World γ σ}

theorem passage_of_free (plan : Plan) (surroundings : Surroundings σ) (asOf : Instant)
    (free : world.site.running = false) :
    (∀ phase, Orderly phase (world.history plan surroundings asOf)) ∧
      Passes (world.history plan surroundings asOf).phases (world.rebuild plan surroundings asOf).1 ∧
      (world.history plan surroundings asOf).getLast? = some ⟨.release, ()⟩ := by
  have rebuilds := World.rebuilds plan surroundings asOf world
  rcases rebuilds.passage with rejected | passage
  · -- A rejection captures nothing.
    obtain ⟨rest, captured⟩ : ∃ rest, world.history plan surroundings asOf = _ := captured_history free
    rw [captured] at rejected
    cases rejected
  · exact passage

theorem released_of_free (free : world.site.running = false) :
    (world.rebuild plan surroundings asOf).2.site.running = false :=
  leads.released (passage_of_free _ _ _ free).2.2

/-- Whatever rebuilds have been run before, and however they have ended, another one may be started. -/
theorem Reached.free (reached : Reached plan world) : world.site.running = false := by
  induction reached with
  | fresh idle free => exact free
  | rebuilt reached surroundings asOf phase running ih =>
    rw [running]
    exact released_of_free ih

/-- Every rebuild that is started from outside runs, passes through its phases with each request in its own, and
leaves no running mark behind; every rebuild that is attempted meanwhile is refused and changes nothing.

A rebuild that returns has entered `done` exactly if it returns a report, and `failed` exactly if it returns an error.
There is one exception among those that do not return: when the party that takes note of the completion panics, `done`
has been entered already and stays although the call unwinds (`Passes.unheard`). -/
theorem one_rebuild_at_a_time (reached : Reached plan world) (surroundings : Surroundings σ) (asOf : Instant) :
    Exclusive plan surroundings asOf world := by
  have free := reached.free
  obtain ⟨orderly, passes, -⟩ := passage_of_free plan surroundings asOf free
  refine ⟨?_, released_of_free free, passes, Dialogue.length_states _ _, fun i later found => ?_,
    fun i later call reply found next => ?_, fun i later question answer found next => attempts_refused found next,
    rebuild_alone⟩
  · obtain ⟨rest, captured⟩ : ∃ rest, world.history plan surroundings asOf = _ := captured_history free
    rw [captured]
    rfl
  · exact (leads_take found).phase
  · rw [(leads_take found).phase]
    exact allows_of_orderly (orderly _) next

end World

/-- Parties that attempt another rebuild each time before they reply. -/
def Parties.insistent (parties : Parties) : Surroundings Unit :=
  { parties.surroundings with
    answer := fun question ambience => .ask ⟨.epoch⟩ fun _ => .done (parties.answer question, ambience) }

namespace World

theorem one_rebuild_at_a_time_trial :
    Reached Trial.plan ((Trial.world (Trial.refusing 2)).rebuild Trial.plan (Trial.parties 0).surroundings .epoch).2 ∧
    Exclusive Trial.plan (Trial.parties 0).insistent .epoch
      ((Trial.world (Trial.refusing 2)).rebuild Trial.plan (Trial.parties 0).surroundings .epoch).2 ∧
    (((Trial.world (Trial.refusing 2)).rebuild Trial.plan (Trial.parties 0).surroundings .epoch).2.history Trial.plan
      (Trial.parties 0).insistent .epoch).phases = Phase.inOrder ++ [.done] := by
  have reached : Reached Trial.plan
      ((Trial.world (Trial.refusing 2)).rebuild Trial.plan (Trial.parties 0).surroundings .epoch).2 :=
    .rebuilt (.fresh rfl rfl) _ _ rfl rfl
  exact ⟨reached, one_rebuild_at_a_time reached _ _, rfl⟩

end World
end CatalogIndex
