import CatalogIndex.Proofs.Attempts
import CatalogIndex.Proofs.Checks
import CatalogIndex.Proofs.Serving
import CatalogIndex.Proofs.Visits
/-!
Cancellations. The mark is never taken back, so from the moment of a cancellation on every check tells of it: no other
page is visited, and what follows upon the check after the compaction is never reached. Once that check has been passed
the mark makes no difference any more.
-/
namespace CatalogIndex

structure Ambience.Alike {σ : Type} (ambience other : Ambience σ) : Prop where
  context : ambience.context = other.context
  own : ambience.own = other.own

/-- Surroundings that differ in nothing but the cancellations, and do not go by the mark. An attempt at another rebuild
counts as refused. -/
structure Surroundings.Alike {σ : Type} (surroundings other : Surroundings σ) : Prop where
  answer : ∀ (question : Outside) (ambience after : Ambience σ), ambience.Alike after →
    ((surroundings.answer question ambience).answer Attempt.refused).1 =
        ((other.answer question after).answer Attempt.refused).1 ∧
      ((surroundings.answer question ambience).answer Attempt.refused).2.Alike
        ((other.answer question after).answer Attempt.refused).2
  attend : ∀ (operation : Operation) (ambience after : Ambience σ), ambience.Alike after →
    (surroundings.attend operation ambience).Alike (other.attend operation after)

namespace World

variable {γ σ α : Type} [Engine γ] {plan : Plan} {surroundings calm : Surroundings σ} {asOf : Instant}
  {world other later : World γ σ} {dialogue : Dialogue Call.Reply α}

structure Alike (world other : World γ σ) : Prop where
  site : world.site = other.site
  ambience : world.ambience.Alike other.ambience

/-- Whether a call is made of parties from outside only while a rebuild runs. -/
def Minds (call : Call) (world : World γ σ) : Prop := ∀ question, call = .outside question → world.site.running = true

theorem outside_of_running (plan : Plan) (surroundings : Surroundings σ) (running : world.site.running = true)
    (question : Outside) :
    (replies plan surroundings (.outside question) world).1 =
        ((surroundings.answer question world.ambience).answer Attempt.refused).1 ∧
      (replies plan surroundings (.outside question) world).2 =
        world.withAmbience ((surroundings.answer question world.ambience).answer Attempt.refused).2 := by
  have same : replies plan surroundings (.outside question) world =
      world.consult (attempt plan surroundings 1) surroundings question := rfl
  rw [same, consult, exec_attempt_of_running running]
  exact ⟨rfl, rfl⟩

theorem cancelled_replies {call : Call} (minds : world.Minds call) (cancelled : world.ambience.cancelled = true) :
    (replies plan surroundings call world).2.ambience.cancelled = true := by
  cases call with
  | acquire =>
    unfold replies
    rw [respond_acquire]
    exact cancelled
  | perform operation => exact Bool.or_eq_true_iff.2 (.inl cancelled)
  | outside question =>
    rw [(outside_of_running plan surroundings (minds question rfl) question).2]
    exact Bool.or_eq_true_iff.2 (.inl cancelled)
  | _ => exact cancelled

theorem told_of_cancelled
    (along : dialogue.Along (fun call world => world.Minds call) (replies plan surroundings) world)
    (cancelled : world.ambience.cancelled = true) {isCancelled : Bool}
    (told : ⟨.isCancelled, isCancelled⟩ ∈ dialogue.transcript (replies plan surroundings) world) :
    isCancelled = true := by
  induction dialogue generalizing world with
  | done answer => cases told
  | ask call next ih =>
    cases told with
    | head => exact cancelled
    | tail _ later => exact ih _ along.2 (cancelled_replies along.1 cancelled) later

theorem told_from_moment {i : Nat}
    (along : dialogue.Along (fun call world => world.Minds call) (replies plan surroundings) world)
    (found : (dialogue.states (replies plan surroundings) world)[i]? = some later)
    (cancelled : later.ambience.cancelled = true) {isCancelled : Bool}
    (told : ⟨.isCancelled, isCancelled⟩ ∈ (dialogue.transcript (replies plan surroundings) world).drop i) :
    isCancelled = true := by
  induction i generalizing dialogue world with
  | zero =>
    have start : world = later := by cases dialogue <;> exact Option.some.inj found
    rw [List.drop_zero] at told
    exact told_of_cancelled along (start ▸ cancelled) told
  | succ i ih =>
    cases dialogue with
    | done answer => cases found
    | ask call next => exact ih along.2 found told

theorem untold_of_unmarked
    (unmarked : ∀ later ∈ dialogue.states (replies plan surroundings) world, later.ambience.cancelled = false)
    {isCancelled : Bool}
    (told : ⟨.isCancelled, isCancelled⟩ ∈ dialogue.transcript (replies plan surroundings) world) :
    isCancelled = false := by
  induction dialogue generalizing world with
  | done answer => cases told
  | ask call next ih =>
    obtain ⟨here, onward⟩ := List.forall_mem_cons.1 unmarked
    cases told with
    | head => exact here
    | tail _ later => exact ih _ onward later

theorem replies_alike {call : Call} (alike : world.Alike other) (same : surroundings.Alike calm)
    (minds : world.Minds call)
    (unchecked : call = .isCancelled → world.ambience.cancelled = other.ambience.cancelled) :
    (replies plan surroundings call world).1 = (replies plan calm call other).1 ∧
      (replies plan surroundings call world).2.Alike (replies plan calm call other).2 := by
  obtain ⟨site, ⟨context, own⟩⟩ := alike
  obtain ⟨place, ⟨ambient, mark, kept⟩⟩ := world
  obtain ⟨otherPlace, ⟨otherAmbient, otherMark, otherKept⟩⟩ := other
  dsimp only at site context own
  subst site context own
  cases call with
  | acquire =>
    unfold replies
    rw [respond_acquire, respond_acquire]
    exact ⟨rfl, ⟨rfl, ⟨rfl, rfl⟩⟩⟩
  | perform operation =>
    obtain ⟨context, own⟩ := same.attend operation ⟨ambient, mark, kept⟩ ⟨ambient, otherMark, kept⟩ ⟨rfl, rfl⟩
    exact ⟨rfl, ⟨rfl, ⟨context, own⟩⟩⟩
  | outside question =>
    obtain ⟨answer, ⟨context, own⟩⟩ :=
      same.answer question ⟨ambient, mark, kept⟩ ⟨ambient, otherMark, kept⟩ ⟨rfl, rfl⟩
    -- Attempts are refused in both worlds while a rebuild runs, so the parties go the same way in both.
    have here : (⟨place, ambient, mark, kept⟩ : World γ σ).site.running = true := minds question rfl
    have there : (⟨place, ambient, otherMark, kept⟩ : World γ σ).site.running = true := here
    obtain ⟨first, changed⟩ := outside_of_running plan surroundings here question
    obtain ⟨second, altered⟩ := outside_of_running plan calm there question
    rw [changed, altered]
    exact ⟨first.trans (answer.trans second.symm), ⟨rfl, ⟨context, own⟩⟩⟩
  | isCancelled => exact ⟨unchecked rfl, ⟨rfl, ⟨rfl, rfl⟩⟩⟩
  | _ => exact ⟨rfl, ⟨rfl, ⟨rfl, rfl⟩⟩⟩

theorem exec_alike (alike : world.Alike other) (same : surroundings.Alike calm)
    (along : dialogue.Along (fun call world => world.Minds call) (replies plan surroundings) world)
    (untold : ⟨.isCancelled, true⟩ ∉ dialogue.transcript (replies plan surroundings) world)
    (unheard : ⟨.isCancelled, true⟩ ∉ dialogue.transcript (replies plan calm) other) :
    (dialogue.exec (replies plan surroundings) world).1 = (dialogue.exec (replies plan calm) other).1 ∧
      dialogue.transcript (replies plan surroundings) world = dialogue.transcript (replies plan calm) other ∧
      (dialogue.exec (replies plan surroundings) world).2.Alike (dialogue.exec (replies plan calm) other).2 := by
  induction dialogue generalizing world other with
  | done answer => exact ⟨rfl, rfl, alike⟩
  | ask call next ih =>
    -- The marks themselves may differ; only a check could tell, and none of either dialogue tells of a cancellation.
    have unchecked : call = .isCancelled → world.ambience.cancelled = other.ambience.cancelled := by
      rintro rfl
      have here : world.ambience.cancelled = false :=
        Bool.eq_false_iff.2 fun marked => untold (List.mem_cons.2 (.inl (congrArg (Sigma.mk _) marked.symm)))
      have there : other.ambience.cancelled = false :=
        Bool.eq_false_iff.2 fun marked => unheard (List.mem_cons.2 (.inl (congrArg (Sigma.mk _) marked.symm)))
      rw [here, there]
    obtain ⟨reply, after⟩ : (replies plan surroundings call world).1 = (replies plan calm call other).1 ∧ _ :=
      replies_alike alike same along.1 unchecked
    have onward : ⟨.isCancelled, true⟩ ∉ (next (replies plan calm call other).1).transcript (replies plan calm)
        (replies plan calm call other).2 := fun member => unheard (List.mem_cons_of_mem _ member)
    rw [← reply] at onward
    obtain ⟨result, history, final⟩ :=
      ih _ after along.2 (fun member => untold (List.mem_cons_of_mem _ member)) onward
    simp only [Dialogue.exec, Dialogue.transcript, ← reply]
    exact ⟨result, congrArg _ history, final⟩

end World

/-- What ends a rebuild other than a cancellation: the first call that fails, or a panic. By itself a rebuild panics
only over a total and a page size that together do not fit a word. -/
inductive Interrupted (plan : Plan) (asOf : Instant) (history : History) : Except Stop Report → Prop where
  | failed {before after : History} {exchange : Exchange} {error : RebuildError}
      (split : history = before ++ exchange :: after) (smooth : Smooth before)
      (fails : exchange.failure? before.getLast? = some error) (closing : ∀ later ∈ after, later.1.isClosing = true) :
      Interrupted plan asOf history (.error (.failed error))
  | panicked {question : Outside} {text : String} (panics : ⟨.outside question, .panicked text⟩ ∈ history) :
      Interrupted plan asOf history (.error (.panicked text))
  | overflowed {total : UInt64} (told : ⟨.outside (.count asOf), .returned (.ok total)⟩ ∈ history)
      (huge : UInt64.size < total.toNat + plan.config.pageSize.toNat) :
      Interrupted plan asOf history (.error Run.overflow)

section

variable {plan : Plan} {asOf : Instant} {history : History} {stop : Stop} {outcome : Except Stop Report}

theorem Interrupted.ne_cancelled (interrupted : Interrupted plan asOf history outcome) :
    outcome ≠ .error (.failed .cancelled) := by
  rintro rfl
  cases interrupted with
  | failed split smooth fails closing =>
    unfold Exchange.failure? at fails
    split at fails
    -- A commit fails as part of a clear or of a page.
    case h_2 => split at fails <;> cases fails
    all_goals cases fails

theorem Run.Rebuilds.interrupted (rebuilds : Run.Rebuilds plan asOf history (.error stop))
    (acquired : history ≠ [⟨.acquire, false⟩]) :
    stop = .failed .cancelled ∧ Smooth history ∨ Interrupted plan asOf history (.error stop) := by
  cases stop with
  | failed error =>
    rcases rebuilds.explains with ⟨rejected, -⟩ | explains
    · exact absurd rejected acquired
    · rcases explains.failed with ⟨rfl, -, smooth⟩ | ⟨before, exchange, after, rfl, fails⟩
      · exact .inl ⟨rfl, smooth⟩
      · obtain ⟨smooth, closing, -⟩ := explains.of_failure fails
        exact .inr (.failed rfl smooth fails closing)
  | panicked text =>
    rcases rebuilds.panics with ⟨question, panics⟩ | ⟨same, total, told, huge⟩
    · exact .inr (.panicked panics)
    · rw [same]
      exact .inr (.overflowed told huge)

/-- Where every check from some moment on tells of a cancellation, a rebuild that something else ends is not checked
again. -/
theorem Run.Rebuilds.cancelled_or_unchecked {moment : Nat} (rebuilds : Run.Rebuilds plan asOf history (.error stop))
    (acquired : history ≠ [⟨.acquire, false⟩])
    (told : ∀ isCancelled, ⟨.isCancelled, isCancelled⟩ ∈ history.drop moment → isCancelled = true) :
    stop = .failed .cancelled ∧ Smooth history ∨
      (∀ exchange ∈ history.drop moment, exchange.1 ≠ .isCancelled) ∧ Interrupted plan asOf history (.error stop) := by
  refine (rebuilds.interrupted acquired).imp_right fun interrupted => ⟨fun exchange member isCheck => ?_, interrupted⟩
  obtain ⟨call, isCancelled⟩ := exchange
  subst isCheck
  have marked : isCancelled = true := told _ member
  exact interrupted.ne_cancelled (rebuilds.decides.cancelled_of_mem (marked ▸ List.mem_of_mem_drop member))

end

namespace World

variable {γ σ : Type} [Engine γ]

theorem active_of_unswapped {plan : Plan} {surroundings : Surroundings σ} {asOf : Instant} {world : World γ σ}
    (unswapped : (world.history plan surroundings asOf).swaps = []) (dual : world.site.generations.isShared = false) :
    (world.rebuild plan surroundings asOf).2.site.generations.active = world.site.generations.active ∧
      ∀ later ∈ world.course plan surroundings asOf,
        later.site.generations.active = world.site.generations.active := by
  refine ⟨(leads.served (History.swapped_of_silent unswapped)).active dual, fun later member => ?_⟩
  obtain ⟨i, found⟩ := List.mem_iff_getElem?.1 member
  exact ((leads_take found).served (History.swapped_of_silent (History.swaps_take i unswapped))).active dual

structure Halted (plan : Plan) (surroundings : Surroundings σ) (asOf : Instant) (world : World γ σ) (moment : Nat) :
    Prop where
  stopped : ∃ stop, (world.rebuild plan surroundings asOf).1 = .error stop
  unswapped : (world.history plan surroundings asOf).swaps = []
  served : world.site.generations.isShared = false →
    (world.rebuild plan surroundings asOf).2.site.generations.active = world.site.generations.active ∧
      ∀ later ∈ world.course plan surroundings asOf, later.site.generations.active = world.site.generations.active
  /-- The rebuild ends as cancelled and nothing has failed, or something else ends it before it is checked again. -/
  cause : (world.rebuild plan surroundings asOf).1 = .error (.failed .cancelled) ∧
      Smooth (world.history plan surroundings asOf) ∨
    (∀ exchange ∈ (world.history plan surroundings asOf).drop moment, exchange.1 ≠ .isCancelled) ∧
      Interrupted plan asOf (world.history plan surroundings asOf) (world.rebuild plan surroundings asOf).1

structure Heeds (plan : Plan) (surroundings : Surroundings σ) (asOf : Instant) (world : World γ σ) (moment : Nat) :
    Prop where
  /-- The moment is in time unless the check that follows the compaction has been passed. -/
  inTime : ¬ History.Passed ((world.history plan surroundings asOf).take moment) →
    Halted plan surroundings asOf world moment
  /-- Every visit to a page has begun before the moment, and goes to its own end. -/
  visits : ∀ before exchange after, world.history plan surroundings asOf = before ++ exchange :: after →
    exchange.isForPage = true → Elsewhere before exchange ∨ ∃ request first, first.length < moment ∧
      OnVisit plan asOf request (world.rebuild plan surroundings asOf).1 (world.history plan surroundings asOf) before
        first
  /-- Too late the rebuild is not checked again, and it goes as it would if nobody had cancelled it. -/
  tooLate : History.Passed ((world.history plan surroundings asOf).take moment) →
    (∀ exchange ∈ (world.history plan surroundings asOf).drop moment, exchange.1 ≠ .isCancelled) ∧
    ∀ (other : World γ σ) (calm : Surroundings σ), world.Alike other → surroundings.Alike calm →
      (∀ later ∈ other.course plan calm asOf, later.ambience.cancelled = false) →
        (world.rebuild plan surroundings asOf).1 = (other.rebuild plan calm asOf).1 ∧
          world.history plan surroundings asOf = other.history plan calm asOf ∧
          (world.rebuild plan surroundings asOf).2.site = (other.rebuild plan calm asOf).2.site

/-- Whenever a rebuild is cancelled, before it starts or by whoever is called, it does not swap unless it has passed the
check that follows the compaction; it begins no other page, and ends as cancelled unless something fails before the next
check. After that check a cancellation changes nothing. -/
theorem cancellation_heeded (plan : Plan) (surroundings : Surroundings σ) (asOf : Instant) {world : World γ σ}
    (free : world.site.running = false) {moment : Nat} {later : World γ σ}
    (found : (world.course plan surroundings asOf)[moment]? = some later)
    (cancelled : later.ambience.cancelled = true) : Heeds plan surroundings asOf world moment := by
  have rebuilds := World.rebuilds plan surroundings asOf world
  -- By then the mark is set, and nobody takes it back: every later check tells of the cancellation.
  have told (isCancelled : Bool)
      (member : ⟨.isCancelled, isCancelled⟩ ∈ (world.history plan surroundings asOf).drop moment) :
      isCancelled = true := told_from_moment along_running found cancelled member
  refine ⟨fun unpassed => ?_, fun before exchange after split forPage => ?_, fun passed => ?_⟩
  · obtain ⟨unswapped, stop, stopped⟩ := rebuilds.decides.unsuccessful unpassed told
    have acquired : world.history plan surroundings asOf ≠ [⟨.acquire, false⟩] := by
      obtain ⟨rest, captured⟩ : ∃ rest, world.history plan surroundings asOf = _ := captured_history free
      rw [captured]
      simp
    refine ⟨⟨stop, stopped⟩, unswapped, active_of_unswapped unswapped, ?_⟩
    rw [stopped] at rebuilds ⊢
    exact (rebuilds.cancelled_or_unchecked acquired told).imp_left fun ⟨same, smooth⟩ => ⟨congrArg _ same, smooth⟩
  · rcases rebuilds.onVisit split forPage with elsewhere | ⟨request, first, onVisit⟩
    · exact .inl elsewhere
    · refine .inr ⟨request, first, ?_, onVisit⟩
      obtain ⟨paging, rest, whole, -⟩ := onVisit
      rw [← Nat.not_le]
      intro late
      cases told _ (History.mem_drop_of_split whole late)
  · obtain ⟨unchecked, untold⟩ := rebuilds.decides.unchecked_of_passed passed
    refine ⟨unchecked, fun other calm alike same unmarked => ?_⟩
    have unheard : ⟨.isCancelled, true⟩ ∉ other.history plan calm asOf := by
      intro member
      cases untold_of_unmarked unmarked member
    obtain ⟨result, history, final⟩ := exec_alike alike same along_running untold unheard
    exact ⟨result, history, final.site⟩

end World

def Parties.cancelling (parties : Parties) (cancels : Progress → Bool) : Surroundings Unit :=
  { parties.surroundings with
    answer := fun question ambience => .done (parties.answer question,
      match question with
      | .report progress => { ambience with cancelled := cancels progress }
      | _ => ambience) }

theorem Parties.cancelling_alike (parties : Parties) (cancels : Progress → Bool) :
    (parties.cancelling cancels).Alike parties.surroundings where
  answer question ambience after alike := by
    refine ⟨rfl, ?_⟩
    cases question <;> exact ⟨alike.context, alike.own⟩
  attend operation ambience after alike := alike

namespace World

theorem cancellation_heeded_trial :
    (∃ moment later, ((Trial.world Trial.memories).course Trial.plan ((Trial.parties 0).cancelling fun _ => true)
        .epoch)[moment]? = some later ∧ later.ambience.cancelled = true ∧
      Heeds Trial.plan ((Trial.parties 0).cancelling fun _ => true) .epoch (Trial.world Trial.memories) moment) ∧
    ((Trial.world Trial.memories).rebuild Trial.plan ((Trial.parties 0).cancelling fun _ => true) .epoch).1 =
      .error (.failed .cancelled) ∧
    ((Trial.world Trial.memories).rebuild Trial.plan ((Trial.parties 0).cancelling Progress.completed) .epoch).1 =
      ((Trial.world Trial.memories).rebuild Trial.plan (Trial.parties 0).surroundings .epoch).1 := by
  refine ⟨⟨20, _, rfl, rfl, cancellation_heeded _ _ _ rfl rfl rfl⟩, rfl, ?_⟩
  have heeds : Heeds Trial.plan ((Trial.parties 0).cancelling Progress.completed) .epoch (Trial.world Trial.memories)
      40 := cancellation_heeded _ _ _ rfl rfl rfl
  have passed : History.Passed (((Trial.world Trial.memories).history Trial.plan
      ((Trial.parties 0).cancelling Progress.completed) .epoch).take 40) := by
    refine ⟨((Trial.world Trial.memories).history Trial.plan ((Trial.parties 0).cancelling Progress.completed)
      .epoch).take 30, .ok (), ?_, ?_⟩
    · exact (((Trial.world Trial.memories).history Trial.plan ((Trial.parties 0).cancelling Progress.completed)
        .epoch).take 40).drop 32
    · rfl
  have unmarked : ((Trial.world Trial.memories).course Trial.plan (Trial.parties 0).surroundings .epoch).all
      (!·.ambience.cancelled) = true := rfl
  have calm := List.all_eq_true.1 unmarked
  simp only [Bool.not_eq_true'] at calm
  exact ((heeds.tooLate passed).2 _ _ ⟨rfl, ⟨rfl, rfl⟩⟩ ((Trial.parties 0).cancelling_alike _) calm).1

end World
end CatalogIndex
