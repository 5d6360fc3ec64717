import CatalogIndex.Generation.Faulty
import CatalogIndex.Generation.Memory
import CatalogIndex.Proofs.Serving
/-!
Surroundings without faults. The parties answer every question from one catalog, one list of descriptors, one
list of locales and handlers that are functions of what they are asked, and nobody cancels. Attempts at other
rebuilds, changes of the ambient context and transactions of every kind are left to them.
-/
namespace CatalogIndex

structure Parties where
  catalog : Catalog
  descriptors : List Descriptor
  locales : List Locale
  handler : (question : HandlerQuestion) → question.Reply

namespace Parties

def Answers (parties : Parties) : (question : Outside) → Answer question.Reply → Prop
  | .begin _, answer => ∃ transaction, answer = .returned (.ok transaction)
  | .finish .., answer => answer = .returned (.ok ())
  | .count asOf, answer => answer = .returned (.ok (parties.catalog.countActive asOf))
  | .page number size asOf, answer => answer = .returned (.ok (parties.catalog.pageActive number size asOf))
  | .descriptors, answer => answer = .returned (.ok parties.descriptors)
  | .locales, answer => answer = .returned (.ok parties.locales)
  | .handler question, answer => answer = .returned (parties.handler question)
  | .report _, answer => answer = .returned ()

/-- Whether an exchange is without faults: parties answer as they may, nobody has cancelled, requests are served
by a memory, and every swap succeeds. -/
def Sound (parties : Parties) : Exchange → Prop
  | ⟨.outside question, answer⟩ => parties.Answers question answer
  | ⟨.isCancelled, isCancelled⟩ => isCancelled = false
  | ⟨.perform operation, reply⟩ => ∃ memory : Memory, reply = (Memory.perform operation memory).1
  | ⟨.swap, reply⟩ => ∃ swapped, reply = .ok swapped
  | _ => True

end Parties

/-- Surroundings that answer as parties without faults do, and in which nobody cancels. -/
structure Surroundings.Faultless {σ : Type} (surroundings : Surroundings σ) (parties : Parties) : Prop where
  answers (question : Outside) (ambience after : Ambience σ) (answer : Answer question.Reply)
    (attempts : List ((attempt : Attempt) × attempt.Reply)) :
    (surroundings.answer question ambience).Path attempts (answer, after) → parties.Answers question answer
  uncancelled (question : Outside) (ambience after : Ambience σ) (answer : Answer question.Reply)
    (attempts : List ((attempt : Attempt) × attempt.Reply)) :
    (surroundings.answer question ambience).Path attempts (answer, after) → ambience.cancelled = false →
      after.cancelled = false
  attends (operation : Operation) (ambience : Ambience σ) :
    ambience.cancelled = false → (surroundings.attend operation ambience).cancelled = false

namespace World

variable {σ : Type} {plan : Plan} {surroundings : Surroundings σ} {asOf : Instant} {parties : Parties}
  {world : World Memory σ}

theorem sound_replies (faultless : surroundings.Faultless parties) (call : Call)
    (guarded : ∀ question, call = .outside question → world.site.running = true)
    (uncancelled : world.ambience.cancelled = false)
    (unrecorded : world.site.generations.recordsActive = false) :
    parties.Sound ⟨call, (replies plan surroundings call world).1⟩ ∧
      (replies plan surroundings call world).2.ambience.cancelled = false := by
  cases call with
  | acquire =>
    refine ⟨trivial, ?_⟩
    unfold replies
    rw [respond_acquire]
    exact uncancelled
  | outside question =>
    obtain ⟨attempts, answer, after, path, same⟩ := consult_of_running (guarded question rfl) question
    rw [same]
    refine ⟨faultless.answers _ _ _ _ _ path, ?_⟩
    have still := faultless.uncancelled _ _ _ _ _ path uncancelled
    simp [withAmbience, uncancelled, still]
  | perform operation =>
    refine ⟨⟨world.site.generations.reindex.engine, Pair.fst_performReindex operation _⟩, ?_⟩
    have still := faultless.attends operation _ uncancelled
    have same : (replies plan surroundings (.perform operation) world).2.ambience.cancelled =
        (world.ambience.cancelled || (surroundings.attend operation world.ambience).cancelled) := rfl
    rw [same, uncancelled, still]
    rfl
  | swap =>
    obtain ⟨swapped, ok⟩ := Pair.swap_of_unrecorded unrecorded
    exact ⟨⟨swapped, ok⟩, uncancelled⟩
  | isCancelled => exact ⟨uncancelled, uncancelled⟩
  | _ => exact ⟨trivial, uncancelled⟩

theorem sound_of_guarded {α : Type} (faultless : surroundings.Faultless parties)
    (dialogue : Dialogue Call.Reply α) (world : World Memory σ)
    (guarded : Guarded world.site.running (dialogue.transcript (replies plan surroundings) world))
    (uncancelled : world.ambience.cancelled = false)
    (unrecorded : world.site.generations.recordsActive = false) :
    ∀ exchange ∈ dialogue.transcript (replies plan surroundings) world, parties.Sound exchange := by
  induction dialogue generalizing world with
  | done answer => exact fun exchange member => nomatch member
  | ask call next ih =>
    obtain ⟨outside, guarded⟩ := guarded_cons guarded
    obtain ⟨-, step⟩ : _ ∧ (replies plan surroundings call world).2.site = world.site.step call :=
      follows call outside
    rw [← step] at guarded
    obtain ⟨sound, still⟩ : parties.Sound ⟨call, (replies plan surroundings call world).1⟩ ∧ _ :=
      sound_replies faultless call outside uncancelled unrecorded
    have kept : (replies plan surroundings call world).2.site.generations.recordsActive = false := by
      rw [step, Site.recordsActive_step, unrecorded]
    intro exchange member
    rcases List.mem_cons.1 member with rfl | member
    · exact sound
    · exact ih _ _ guarded still kept exchange member

theorem sound_history (faultless : surroundings.Faultless parties) (uncancelled : world.ambience.cancelled = false)
    (unrecorded : world.site.generations.recordsActive = false) :
    ∀ exchange ∈ world.history plan surroundings asOf, parties.Sound exchange :=
  sound_of_guarded faultless _ world (Run.guarded_of_goes goes_history) uncancelled unrecorded

end World

namespace Parties

def answer (parties : Parties) : (question : Outside) → Answer question.Reply
  | .begin definition => .returned (.ok ⟨0, definition.name, false⟩)
  | .finish .. => .returned (.ok ())
  | .count asOf => .returned (.ok (parties.catalog.countActive asOf))
  | .page number size asOf => .returned (.ok (parties.catalog.pageActive number size asOf))
  | .descriptors => .returned (.ok parties.descriptors)
  | .locales => .returned (.ok parties.locales)
  | .handler question => .returned (parties.handler question)
  | .report _ => .returned ()

def surroundings (parties : Parties) : Surroundings Unit :=
  ⟨fun question ambience => .done (parties.answer question, ambience), fun _ ambience => ambience⟩

theorem faultless_surroundings (parties : Parties) : parties.surroundings.Faultless parties where
  answers question ambience after answer attempts path := by
    obtain ⟨-, same⟩ := Dialogue.path_done.1 path
    cases same
    cases question with
    | begin definition => exact ⟨_, rfl⟩
    | _ => rfl
  uncancelled question ambience after answer attempts path uncancelled := by
    obtain ⟨-, same⟩ := Dialogue.path_done.1 path
    cases same
    exact uncancelled
  attends _ _ uncancelled := uncancelled

end Parties

/-! A small rebuild to try the theorems on: two items on pages of their own, and one handler of basic fields. -/
namespace Trial

def plan : Plan := ⟨⟨1, "catalog", .standard⟩, [.outside "basic" 0], rfl⟩

def refusal : ExtensionError := ⟨"basic", "refused"⟩

/-- The handler fails on the item of one id and leaves the others as they are. -/
def parties (refused : Int64) : Parties where
  catalog := ⟨[.new 1, .new 2]⟩
  descriptors := []
  locales := []
  handler
    | .attach _ item _ => Attachment.mk [] (if item.id = refused then .error refusal else .ok false)
    | .resolve .. => (.ok none : Except ExtensionError (Option PropertyValues))

def world {γ : Type} (generations : Pair γ) : World γ Unit := ⟨⟨.idle, false, generations⟩, ⟨.empty, false, ()⟩⟩

def stale : Document := Document.empty.addField Document.idField (.text "stale")

def memories : Pair Memory :=
  .dual ⟨Pair.primaryName, { Memory.empty with pending := [.add stale] }⟩
    ⟨Pair.reindexName, { Memory.empty with committed := .ofList [("stale", stale)], pending := [.add stale] }⟩

def refusing (call : Nat) : Pair (Faulty FaultPlan Memory) :=
  .dual ⟨Pair.primaryName, ⟨.none, .empty⟩⟩
    ⟨Pair.reindexName, ⟨{ FaultPlan.none with failAdd := some call }, .empty⟩⟩

end Trial
end CatalogIndex
