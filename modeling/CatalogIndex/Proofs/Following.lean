import CatalogIndex.Proofs.Stages
import CatalogIndex.Proofs.Within
import CatalogIndex.Rebuild.World
/-!
Rebuilds in a world leave a history, and the history alone tells what becomes of the site: an attempt at another
rebuild from within is refused and changes nothing.
-/
namespace CatalogIndex

namespace Site

variable {γ : Type} [Engine γ] {site middle last : Site γ} {before after history : History}

def step (site : Site γ) : Call → Site γ
  | .acquire => { site with running := true }
  | .release => { site with running := false }
  | .enter phase => { site with phase := phase }
  | .perform operation => { site with generations := (site.generations.performReindex operation).2 }
  | .swap => { site with generations := site.generations.swap.2 }
  | _ => site

/-- Whether a site gives a reply. It has no say in the replies of others. -/
def Gives (site : Site γ) : (call : Call) → call.Reply → Prop
  | .acquire, reply => reply = !site.running
  | .isShared, reply => reply = site.generations.isShared
  | .perform operation, reply => reply = (site.generations.performReindex operation).1
  | .swap, reply => reply = site.generations.swap.1
  | _, _ => True

inductive Leads : Site γ → History → Site γ → Prop where
  | nil (site : Site γ) : Leads site [] site
  | cons {site last : Site γ} {call : Call} {reply : call.Reply} {rest : History}
      (gives : site.Gives call reply) (leads : Leads (site.step call) rest last) :
      Leads site (⟨call, reply⟩ :: rest) last

theorem leads_append : Leads site (before ++ after) last ↔
    ∃ middle, Leads site before middle ∧ Leads middle after last := by
  induction before generalizing site with
  | nil =>
    constructor
    · intro leads
      exact ⟨site, .nil site, leads⟩
    · rintro ⟨middle, first, second⟩
      cases first
      exact second
  | cons exchange before ih =>
    constructor
    · intro leads
      cases leads with
      | cons gives leads =>
        obtain ⟨middle, first, second⟩ := ih.1 leads
        exact ⟨middle, .cons gives first, second⟩
    · rintro ⟨middle, first, second⟩
      cases first with
      | cons gives first => exact .cons gives (ih.2 ⟨middle, first, second⟩)

end Site

namespace Dialogue

variable {Question : Type} {Reply : Question → Type} {α σ : Type} {respond : Responder Reply σ}

theorem exec_of_stays {state : σ} (stays : ∀ question, (respond question state).2 = state)
    (dialogue : Dialogue Reply α) : (dialogue.exec respond state).2 = state := by
  induction dialogue with
  | done answer => rfl
  | ask question next ih =>
    change ((next _).exec respond (respond question state).2).2 = state
    rw [stays question]
    exact ih _

theorem length_states (dialogue : Dialogue Reply α) (state : σ) :
    (dialogue.states respond state).length = (dialogue.transcript respond state).length + 1 := by
  induction dialogue generalizing state with
  | done answer => rfl
  | ask question next ih => exact congrArg Nat.succ (ih _ _)

end Dialogue

namespace World

variable {γ σ : Type} [Engine γ] {plan : Plan} {surroundings : Surroundings σ} {asOf : Instant}
  {world : World γ σ}

/-- What a world replies to a rebuild that no other one contains. -/
def replies (plan : Plan) (surroundings : Surroundings σ) : Dialogue.Responder Call.Reply (World γ σ) :=
  respond (attempt plan surroundings 1) surroundings

def history (plan : Plan) (surroundings : Surroundings σ) (asOf : Instant) (world : World γ σ) : History :=
  (Run.rebuild plan asOf).run.transcript (replies plan surroundings) world

/-- The worlds between two calls of a rebuild, from the one at its start to the one at its end. -/
def course (plan : Plan) (surroundings : Surroundings σ) (asOf : Instant) (world : World γ σ) :
    List (World γ σ) :=
  (Run.rebuild plan asOf).run.states (replies plan surroundings) world

theorem goes_history : (Run.rebuild plan asOf).Goes (world.history plan surroundings asOf)
    (world.rebuild plan surroundings asOf).1 :=
  Dialogue.path_transcript _ _ _

/-- What a rebuild goes through in a world is one of the courses that a rebuild can take. -/
theorem rebuilds (plan : Plan) (surroundings : Surroundings σ) (asOf : Instant) (world : World γ σ) :
    Run.Rebuilds plan asOf (world.history plan surroundings asOf) (world.rebuild plan surroundings asOf).1 :=
  Run.goes_rebuild goes_history

theorem respond_acquire (nested : Dialogue.Responder Attempt.Reply (World γ σ)) (world : World γ σ) :
    respond nested surroundings .acquire world =
      (!world.site.running, { world with site := { world.site with running := true } }) := by
  obtain ⟨⟨phase, running, generations⟩, ambience⟩ := world
  cases running <;> rfl

theorem attempt_of_running (running : world.site.running = true) (depth : Nat) (request : Attempt) :
    attempt plan surroundings depth request world = (.error (.failed .alreadyRunning), world) := by
  cases depth with
  | zero => rfl
  | succ depth =>
    have refused : respond (attempt plan surroundings depth) surroundings .acquire world = (false, world) :=
      if_pos running
    change (Dialogue.exec _ (Dialogue.ask Call.acquire _) world) = _
    simp only [Dialogue.exec]
    rw [refused]
    rfl

theorem site_consult (running : world.site.running = true) (question : Outside) :
    (world.consult (attempt plan surroundings 1) surroundings question).2.site = world.site := by
  have stays : ((surroundings.answer question world.ambience).exec (attempt plan surroundings 1) world).2 = world :=
    Dialogue.exec_of_stays (fun request => by rw [attempt_of_running running]) _
  have same : (world.consult (attempt plan surroundings 1) surroundings question).2.site =
      ((surroundings.answer question world.ambience).exec (attempt plan surroundings 1) world).2.site := rfl
  rw [same, stays]

theorem consult_of_running (running : world.site.running = true) (question : Outside) :
    ∃ attempts answer after, (surroundings.answer question world.ambience).Path attempts (answer, after) ∧
      replies plan surroundings (.outside question) world = (answer, world.withAmbience after) := by
  have stays : ((surroundings.answer question world.ambience).exec (attempt plan surroundings 1) world).2 = world :=
    Dialogue.exec_of_stays (fun request => by rw [attempt_of_running running]) _
  have path := Dialogue.path_transcript (attempt plan surroundings 1)
    (surroundings.answer question world.ambience) world
  refine ⟨_, _, _, path, ?_⟩
  have same : replies plan surroundings (.outside question) world =
      (((surroundings.answer question world.ambience).exec (attempt plan surroundings 1) world).1.1,
        ((surroundings.answer question world.ambience).exec (attempt plan surroundings 1) world).2.withAmbience
          ((surroundings.answer question world.ambience).exec (attempt plan surroundings 1) world).1.2) := rfl
  rw [same, stays]

/-- What a world replies is what its site gives, and the site takes the step of the call. -/
theorem follows (call : Call) (guarded : ∀ question, call = .outside question → world.site.running = true) :
    world.site.Gives call (replies plan surroundings call world).1 ∧
      (replies plan surroundings call world).2.site = world.site.step call := by
  cases call with
  | acquire =>
    unfold replies
    rw [respond_acquire]
    exact ⟨rfl, rfl⟩
  | outside question => exact ⟨trivial, site_consult (guarded question rfl) question⟩
  | _ => exact ⟨by trivial, rfl⟩

theorem guarded_cons {site : Site γ} {call : Call} {reply : call.Reply} {rest : History}
    (guarded : Guarded site.running (⟨call, reply⟩ :: rest)) :
    (∀ question, call = .outside question → site.running = true) ∧
      Guarded (site.step call).running rest := by
  cases call with
  | outside question => exact ⟨fun _ _ => guarded.1, guarded.2⟩
  | _ =>
    refine ⟨fun question same => ?_, guarded⟩
    cases same

theorem leads_of_guarded {α : Type} (dialogue : Dialogue Call.Reply α) (world : World γ σ)
    (guarded : Guarded world.site.running (dialogue.transcript (replies plan surroundings) world)) :
    world.site.Leads (dialogue.transcript (replies plan surroundings) world)
        (dialogue.exec (replies plan surroundings) world).2.site ∧
      ∀ (i : Nat) (later : World γ σ), (dialogue.states (replies plan surroundings) world)[i]? = some later →
        world.site.Leads ((dialogue.transcript (replies plan surroundings) world).take i) later.site := by
  -- Along the dialogue: a world replies as its site does, and the rest leads on from the site behind the call.
  induction dialogue generalizing world with
  | done answer =>
    refine ⟨.nil _, fun i later found => ?_⟩
    cases i with
    | zero =>
      cases found
      exact .nil _
    | succ i => cases found
  | ask call next ih =>
    obtain ⟨outside, guarded⟩ := guarded_cons guarded
    obtain ⟨gives, step⟩ : _ ∧ (replies plan surroundings call world).2.site = world.site.step call :=
      follows call outside
    rw [← step] at guarded
    obtain ⟨leads, between⟩ := ih _ _ guarded
    rw [step] at leads
    refine ⟨.cons gives leads, fun i later found => ?_⟩
    cases i with
    | zero =>
      cases found
      exact .nil _
    | succ i =>
      have leads := between i later found
      rw [step] at leads
      exact .cons gives leads

theorem leads : world.site.Leads (world.history plan surroundings asOf)
    (world.rebuild plan surroundings asOf).2.site :=
  (leads_of_guarded _ world (Run.guarded_of_goes goes_history)).1

theorem leads_take {i : Nat} {later : World γ σ} (found : (world.course plan surroundings asOf)[i]? = some later) :
    world.site.Leads ((world.history plan surroundings asOf).take i) later.site :=
  (leads_of_guarded _ world (Run.guarded_of_goes goes_history)).2 i later found

theorem captured_history (idle : world.site.running = false) :
    ∃ rest, world.history plan surroundings asOf =
      ⟨.acquire, true⟩ :: ⟨.enter .preparing, ()⟩ :: ⟨.capture, world.ambience.context⟩ :: rest := by
  have acquired : replies plan surroundings .acquire world =
      (true, { world with site := { world.site with running := true } }) := by
    unfold replies
    rw [respond_acquire, idle]
    rfl
  unfold history
  change ∃ rest, (Dialogue.ask Call.acquire _).transcript _ _ = _
  unfold Dialogue.transcript
  rw [acquired]
  exact ⟨_, rfl⟩

end World
end CatalogIndex
