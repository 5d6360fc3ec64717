import CatalogIndex.Settings.Environment
import CatalogIndex.Settings.Files
import CatalogIndex.Settings.Leaf
/-!
Settings from their layers: the defaults, the user's file, a file named by the caller, and the environment, a
later layer over an earlier one. What they come to has to be valid.
-/
namespace CatalogIndex

inductive LoadFault where
  /-- A layer cannot be read, or a setting is of the wrong kind. -/
  | unreadable
  | invalid (error : CatalogError)
deriving DecidableEq, Repr

structure Surrounding where
  environment : Table String
  /-- The contents of the files by absolute path. -/
  files : Table String
  /-- The home directory of an account, where the environment names none. -/
  accountHome : String

namespace Surrounding

/-- The directory that a variable names, if its path is absolute. -/
def directory? (surrounding : Surrounding) (name : String) : Option String :=
  (surrounding.environment.find? name).filter fun path => path.startsWith "/"

def home (surrounding : Surrounding) : String :=
  ((surrounding.environment.find? "HOME").filter fun path => path ≠ "").getD surrounding.accountHome

def ownDirectory (shared : String) : String := Settings.join shared "catalog-search"

def indexRoot (surrounding : Surrounding) : String :=
  let shared := (surrounding.directory? "XDG_DATA_HOME").getD (Settings.join surrounding.home ".local/share")
  Settings.join (ownDirectory shared) "index"

def userFile (surrounding : Surrounding) : String :=
  let shared := (surrounding.directory? "XDG_CONFIG_HOME").getD (Settings.join surrounding.home ".config")
  Settings.join (ownDirectory shared) "config"

end Surrounding

namespace Settings

/-- The layer of a file; one that is missing makes an empty layer unless it is required. -/
def fileLayer (required : Bool) : Files.Found → Except LoadFault Json
  | .missing => if required then .error .unreadable else .ok (.object [])
  | .file form content =>
    match form.layer? content with
    | some layer => .ok layer
    | none => .error .unreadable

def ofLayers (indexRoot : String) (layers : List Json) : Except LoadFault Settings :=
  match Leaf.settings? indexRoot (Key.mergeAll (Leaf.defaults indexRoot :: layers)) with
  | none => .error .unreadable
  | some settings =>
    match settings.validate with
    | .ok () => .ok settings
    | .error error => .error (.invalid error)

/-- Loads settings; a file that the caller names has to be there. -/
def load (surrounding : Surrounding) (named : Option String) : Except LoadFault Settings := do
  let user ← fileLayer false (Files.locate surrounding.files surrounding.userFile)
  let explicit ← match named with
    | some name => fileLayer true (Files.locate surrounding.files name)
    | none => .ok (.object [])
  ofLayers surrounding.indexRoot [user, explicit, EnvironmentLayer.ofVariables surrounding.environment]

end Settings
end CatalogIndex
