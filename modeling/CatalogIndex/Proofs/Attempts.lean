import CatalogIndex.Proofs.Following
/-!
Attempts from within. While a rebuild runs, every attempt at another one is refused and changes nothing, so the
rebuild goes as it would have gone if nobody had attempted anything.
-/
namespace CatalogIndex

namespace Dialogue

variable {Question : Type} {Reply : Question → Type} {α σ : Type} {holds : Question → σ → Prop}
  {respond other : Responder Reply σ} {dialogue : Dialogue Reply α} {state : σ}

/-- Whether something holds whenever a dialogue asks a question in a state. -/
def Along (holds : Question → σ → Prop) (respond : Responder Reply σ) : Dialogue Reply α → σ → Prop
  | done _, _ => True
  | ask question next, state =>
    holds question state ∧ (next (respond question state).1).Along holds respond (respond question state).2

theorem Along.of_imp {weaker : Question → σ → Prop} (along : dialogue.Along holds respond state)
    (imp : ∀ question state, holds question state → weaker question state) :
    dialogue.Along weaker respond state := by
  induction dialogue generalizing state with
  | done answer => trivial
  | ask question next ih => exact ⟨imp _ _ along.1, ih _ along.2⟩

theorem Along.at_point (along : dialogue.Along holds respond state) {i : Nat} {later : σ}
    {exchange : (question : Question) × Reply question} (found : (dialogue.states respond state)[i]? = some later)
    (next : (dialogue.transcript respond state)[i]? = some exchange) : holds exchange.1 later := by
  induction dialogue generalizing state i with
  | done answer => cases next
  | ask question rest ih =>
    cases i with
    | zero =>
      cases found
      cases next
      exact along.1
    | succ i => exact ih _ along.2 found next

/-- Responders that agree along a dialogue lead it the same way. -/
theorem Along.agree (along : dialogue.Along (fun question state => other question state = respond question state)
    respond state) :
    dialogue.exec other state = dialogue.exec respond state ∧
      dialogue.transcript other state = dialogue.transcript respond state ∧
      dialogue.states other state = dialogue.states respond state := by
  induction dialogue generalizing state with
  | done answer => exact ⟨rfl, rfl, rfl⟩
  | ask question next ih =>
    obtain ⟨same, later⟩ := along
    obtain ⟨result, history, course⟩ := ih _ later
    simp only [exec, transcript, states, same, result, history, course, and_self]

end Dialogue

def Attempt.refused (attempt : Attempt) : attempt.Reply := .error (.failed .alreadyRunning)

/-- Surroundings in which parties from outside reply as if they had been refused, without any attempt. -/
def Surroundings.alone {σ : Type} (surroundings : Surroundings σ) : Surroundings σ :=
  { surroundings with
    answer := fun question ambience => .done ((surroundings.answer question ambience).answer Attempt.refused) }

namespace World

variable {γ σ α : Type} [Engine γ] {plan : Plan} {surroundings : Surroundings σ} {asOf : Instant}
  {world later : World γ σ}

theorem exec_attempt_of_running (running : world.site.running = true) (depth : Nat)
    (dialogue : Dialogue Attempt.Reply α) :
    dialogue.exec (attempt plan surroundings depth) world = (dialogue.answer Attempt.refused, world) := by
  induction dialogue with
  | done answer => rfl
  | ask request next ih =>
    simp only [Dialogue.exec, attempt_of_running running]
    exact ih _

theorem transcript_attempt_of_running (running : world.site.running = true) (depth : Nat)
    (dialogue : Dialogue Attempt.Reply α) :
    ∀ exchange ∈ dialogue.transcript (attempt plan surroundings depth) world,
      exchange.2 = .error (.failed .alreadyRunning) := by
  induction dialogue with
  | done answer => exact List.forall_mem_nil _
  | ask request next ih =>
    simp only [Dialogue.transcript, attempt_of_running running]
    exact List.forall_mem_cons.2 ⟨rfl, ih _⟩

theorem replies_alone (call : Call) (guarded : ∀ question, call = .outside question → world.site.running = true) :
    replies plan surroundings.alone call world = replies plan surroundings call world := by
  cases call with
  | outside question =>
    have running := guarded question rfl
    show world.consult _ surroundings.alone question = world.consult _ surroundings question
    unfold consult
    rw [exec_attempt_of_running running, exec_attempt_of_running running]
    rfl
  | _ => rfl

theorem along_of_guarded (dialogue : Dialogue Call.Reply α) (world : World γ σ)
    (guarded : Guarded world.site.running (dialogue.transcript (replies plan surroundings) world)) :
    dialogue.Along (fun call world => ∀ question, call = .outside question → world.site.running = true)
      (replies plan surroundings) world := by
  -- The guard speaks of the running mark alone, and that follows the history whatever the parties do.
  induction dialogue generalizing world with
  | done answer => trivial
  | ask call next ih =>
    obtain ⟨outside, guarded⟩ := guarded_cons guarded
    obtain ⟨-, step⟩ : _ ∧ (replies plan surroundings call world).2.site = world.site.step call :=
      follows call outside
    rw [← step] at guarded
    exact ⟨outside, ih _ _ guarded⟩

theorem along_running : (Run.rebuild plan asOf).run.Along
    (fun call world => ∀ question, call = .outside question → world.site.running = true)
    (replies plan surroundings) world :=
  along_of_guarded _ world (Run.guarded_of_goes goes_history)

/-- Without the attempts a rebuild has the same result and the same history, by way of the same worlds. -/
theorem rebuild_alone :
    world.rebuild plan surroundings.alone asOf = world.rebuild plan surroundings asOf ∧
      world.history plan surroundings.alone asOf = world.history plan surroundings asOf ∧
      world.course plan surroundings.alone asOf = world.course plan surroundings asOf := by
  have agree : (Run.rebuild plan asOf).run.Along
      (fun call world => replies plan surroundings.alone call world = replies plan surroundings call world)
      (replies plan surroundings) world :=
    along_running.of_imp fun call _ guarded => replies_alone call guarded
  exact agree.agree

/-- Every attempt from within is refused and leaves the world as it is. -/
theorem attempts_refused {i : Nat} {question : Outside} {answer : Answer question.Reply}
    (found : (world.course plan surroundings asOf)[i]? = some later)
    (next : (world.history plan surroundings asOf)[i]? = some ⟨.outside question, answer⟩) :
    (∀ exchange ∈ (surroundings.answer question later.ambience).transcript (attempt plan surroundings 1) later,
        exchange.2 = .error (.failed .alreadyRunning)) ∧
      ((surroundings.answer question later.ambience).exec (attempt plan surroundings 1) later).2 = later := by
  have running : later.site.running = true := along_running.at_point found next question rfl
  refine ⟨transcript_attempt_of_running running 1 _, ?_⟩
  rw [exec_attempt_of_running running]

end World
end CatalogIndex
