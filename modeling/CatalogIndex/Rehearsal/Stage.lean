import CatalogIndex.Rehearsal.Script
/-!
What can be done to a rehearsed world between and during rebuilds.
-/
namespace CatalogIndex.Stage

variable {γ : Type}

def direct (change : Script → Script) (world : World γ Script) : World γ Script :=
  { world with ambience := { world.ambience with own := change world.ambience.own } }

def upsert (item : Item) : World γ Script → World γ Script :=
  direct fun script => { script with catalog := script.catalog.upsert item }

def markRollbackOnly (value : Bool) : World γ Script → World γ Script :=
  direct fun script => { script with recorder := { script.recorder with rollbackOnly := value } }

def setContext (context : RequestContext) (world : World γ Script) : World γ Script :=
  { world with ambience := { world.ambience with context } }

def tend {α : Type} (work : Pair γ → α × Pair γ) (world : World γ Script) : α × World γ Script :=
  let (answer, generations) := work world.site.generations
  (answer, { world with site := { world.site with generations } })

def rebuild [Engine γ] (plan : Plan) (audience : Audience) (cancelled : Bool) (asOf : Instant)
    (world : World γ Script) : Except Stop Report × World γ Script :=
  let world := direct (fun script => { script with audience }) world
  World.rebuild plan Script.surroundings asOf { world with ambience := { world.ambience with cancelled } }

def clearLogs (world : World γ Script) : World γ Script :=
  let world := (tend (fun pair => ((), { pair with log := [] })) world).2
  direct (fun script => { script with
    calls := [], snapshots := [], nested := [], recorder := { script.recorder with events := [] } }) world

def opening (pair : Pair γ) (context : RequestContext) (script : Script) : World γ Script :=
  ⟨⟨.idle, false, pair⟩, ⟨context, false, script⟩⟩

end CatalogIndex.Stage
