import CatalogIndex.Generation.Engine
import CatalogIndex.Settings.Basic
import CatalogIndex.Text.Blank
/-!
The generation that serves queries and, where there are two, the standby that rebuilds write. A swap exchanges
them in one step. Generations kept on disk also record in a marker file which of them is active, so that
opening them again finds the same one.
-/
namespace CatalogIndex

/-- The file that names the active generation. -/
inductive Marker where
  | absent
  | written (text : String)
  /-- A directory stands in its place: it can be neither read nor replaced. -/
  | blocked
  /-- It is there or not, and no other file can be put into its place. -/
  | sealed (text : Option String)
deriving DecidableEq, Repr

namespace Marker

def text? : Marker → Option String
  | written text => some text
  | sealed text => text
  | _ => none

/-- The name that the file holds, blanks cut off. -/
def read : Marker → Except SearchError (Option String)
  | absent => .ok none
  | written text => .ok (some (Blank.trimText text))
  | blocked => .error (.fileSystem "the active marker is a directory")
  | sealed text => .ok (text.map Blank.trimText)

def write (name : String) : Marker → Except SearchError Marker
  | blocked => .error (.fileSystem "the active marker is a directory")
  | sealed _ => .error (.fileSystem "the active marker cannot be replaced")
  | _ => .ok (written name)

end Marker

structure Named (γ : Type) where
  name : String
  engine : γ

structure LoggedCall where
  generation : String
  operation : Operation
deriving DecidableEq

def LoggedCall.label (call : LoggedCall) : String := call.generation ++ ":" ++ call.operation.label

structure Pair (γ : Type) where
  active : Named γ
  standby : Option (Named γ)
  marker : Marker
  /-- Whether swaps are written to the marker file. -/
  recordsActive : Bool
  log : List LoggedCall

namespace Pair

variable {γ : Type}

def primaryName : String := "primary"

def reindexName : String := "reindex"

def dual (active standby : Named γ) : Pair γ := ⟨active, some standby, .absent, false, []⟩

def shared (only : Named γ) : Pair γ := ⟨only, none, .absent, false, []⟩

def isShared (pair : Pair γ) : Bool := pair.standby.isNone

/-- The generation that rebuilds write: the standby, or the only one. -/
def reindex (pair : Pair γ) : Named γ := pair.standby.getD pair.active

def named? (pair : Pair γ) (name : String) : Option (Named γ) :=
  (pair.active :: pair.standby.toList).find? fun generation => generation.name == name

def target (pair : Pair γ) (name : String) : Named γ := (pair.named? name).getD pair.reindex

/-- Exchanges the generations, the marker first; with one generation there is nothing to exchange. -/
def swap (pair : Pair γ) : Except SearchError Bool × Pair γ :=
  match pair.standby with
  | none => (.ok false, pair)
  | some standby =>
    let exchanged := { pair with active := standby, standby := some pair.active }
    if pair.recordsActive then
      match pair.marker.write standby.name with
      | .error error => (.error error, pair)
      | .ok marker => (.ok true, { exchanged with marker := marker })
    else (.ok true, exchanged)

variable [Engine γ]

def serve (operation : Operation) (generation : Named γ) : Except SearchError Unit × Named γ × LoggedCall :=
  let (reply, engine) := Engine.perform operation generation.engine
  (reply, ⟨generation.name, engine⟩, ⟨generation.name, operation⟩)

def performActive (operation : Operation) (pair : Pair γ) : Except SearchError Unit × Pair γ :=
  let (reply, active, call) := serve operation pair.active
  (reply, { pair with active := active, log := pair.log ++ [call] })

def performReindex (operation : Operation) (pair : Pair γ) : Except SearchError Unit × Pair γ :=
  match pair.standby with
  | some standby =>
    let (reply, standby, call) := serve operation standby
    (reply, { pair with standby := some standby, log := pair.log ++ [call] })
  | none => pair.performActive operation

/-- Makes a request to the active generation if it has the name, else to the one that rebuilds write. -/
def performNamed (name : String) (operation : Operation) (pair : Pair γ) : Except SearchError Unit × Pair γ :=
  if pair.active.name = name then pair.performActive operation else pair.performReindex operation

/-- Which generation a marker makes active: the reindex one if it is named, else the primary one. -/
def namesReindex (marker : Option String) : Bool := marker = some reindexName

def openWith (mode : GenerationMode) (openEngine : String → Except SearchError γ) (marker : Marker) :
    Except SearchError (Pair γ) :=
  match mode with
  | .shared => do
    let engine ← openEngine primaryName
    return { shared ⟨primaryName, engine⟩ with marker := marker }
  | .dual => do
    let name ← marker.read
    let (active, standby) :=
      if namesReindex name then (reindexName, primaryName) else (primaryName, reindexName)
    let activeEngine ← openEngine active
    let standbyEngine ← openEngine standby
    return { dual ⟨active, activeEngine⟩ ⟨standby, standbyEngine⟩ with marker := marker, recordsActive := true }

end Pair
end CatalogIndex
