import CatalogIndex.Generation.Pair
import CatalogIndex.Rebuild.Run
import CatalogIndex.Request
/-!
Rebuilds at work. The site of a rebuild is its state and its generations; around it stand the ambient context,
the cancellation mark and the parties from outside, which may change both, and may try to start another
rebuild at the same site before they reply. While one rebuild runs, such an attempt is refused.
-/
namespace CatalogIndex

structure Site (γ : Type) where
  phase : Phase
  running : Bool
  generations : Pair γ

/-- What stands around a site: the ambient context, whether the rebuild is cancelled, and a state that the
parties from outside keep for themselves. -/
structure Ambience (σ : Type) where
  context : RequestContext
  cancelled : Bool
  own : σ

structure World (γ σ : Type) where
  site : Site γ
  ambience : Ambience σ

structure Attempt where
  asOf : Instant

abbrev Attempt.Reply (_ : Attempt) : Type := Except Stop Report

structure Surroundings (σ : Type) where
  /-- Attempts at other rebuilds, then a reply to what was asked, and a new ambience. -/
  answer : (question : Outside) → Ambience σ → Dialogue Attempt.Reply (Answer question.Reply × Ambience σ)
  /-- What becomes of the ambience while a generation serves a request. -/
  attend : Operation → Ambience σ → Ambience σ

namespace World

variable {γ σ : Type}

/-- The world with a new ambience. A cancellation cannot be taken back. -/
def withAmbience (world : World γ σ) (ambience : Ambience σ) : World γ σ :=
  let cancelled := world.ambience.cancelled || ambience.cancelled
  { world with ambience := { ambience with cancelled } }

def consult (nested : Dialogue.Responder Attempt.Reply (World γ σ)) (surroundings : Surroundings σ)
    (question : Outside) (world : World γ σ) : Answer question.Reply × World γ σ :=
  let ((answer, ambience), world) := (surroundings.answer question world.ambience).exec nested world
  (answer, world.withAmbience ambience)

def respond [Engine γ] (nested : Dialogue.Responder Attempt.Reply (World γ σ))
    (surroundings : Surroundings σ) : Dialogue.Responder Call.Reply (World γ σ)
  | .acquire, world =>
    if world.site.running then (false, world)
    else (true, { world with site := { world.site with running := true } })
  | .release, world => ((), { world with site := { world.site with running := false } })
  | .enter phase, world => ((), { world with site := { world.site with phase } })
  | .isShared, world => (world.site.generations.isShared, world)
  | .capture, world => (world.ambience.context, world)
  | .restore context, world => ((), { world with ambience := { world.ambience with context } })
  | .perform operation, world =>
    let (reply, generations) := world.site.generations.performReindex operation
    let world := { world with site := { world.site with generations } }
    (reply, world.withAmbience (surroundings.attend operation world.ambience))
  | .swap, world =>
    let (reply, generations) := world.site.generations.swap
    (reply, { world with site := { world.site with generations } })
  | .isCancelled, world => (world.ambience.cancelled, world)
  | .outside question, world => world.consult nested surroundings question

/-- Rebuilds in a world, to a depth of attempts from within attempts; beyond it they are refused. -/
def attempt [Engine γ] (plan : Plan) (surroundings : Surroundings σ) (depth : Nat) :
    Dialogue.Responder Attempt.Reply (World γ σ) := fun request world =>
  match depth with
  | 0 => (.error (.failed .alreadyRunning), world)
  | depth + 1 =>
    (Run.rebuild plan request.asOf).run.exec (respond (attempt plan surroundings depth) surroundings) world

/-- A rebuild as of an instant. An attempt from within it is refused before it can make attempts of its own,
so two levels are all there are. -/
def rebuild [Engine γ] (plan : Plan) (surroundings : Surroundings σ) (asOf : Instant) (world : World γ σ) :
    Except Stop Report × World γ σ :=
  attempt plan surroundings 2 ⟨asOf⟩ world

end World
end CatalogIndex
