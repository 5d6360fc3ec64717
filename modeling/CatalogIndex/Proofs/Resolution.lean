import CatalogIndex.Proofs.Layers
import CatalogIndex.Settings.Load
/-!
Settings resolved leaf by leaf. Each of them is told by the highest layer that sets it, whatever the layers set besides,
and the three names of mapped lists are no exception, though they stand in a table of their own.
-/
namespace CatalogIndex

inductive LeafKind where
  | word
  | text
  | mode
deriving DecidableEq, Repr

namespace LeafKind

abbrev Value : LeafKind → Type
  | word => UInt64
  | text => String
  | mode => GenerationMode

instance : (kind : LeafKind) → DecidableEq kind.Value
  | word => inferInstanceAs (DecidableEq UInt64)
  | text => inferInstanceAs (DecidableEq String)
  | mode => inferInstanceAs (DecidableEq GenerationMode)

def read : (kind : LeafKind) → Json → Option kind.Value
  | word => Leaf.word?
  | text => Leaf.text?
  | mode => Leaf.mode?

def write : (kind : LeafKind) → kind.Value → Json
  | word, value => .integer (UInt64.toNat value)
  | text, value => .text value
  | mode, value => .text (GenerationMode.name value)

theorem read_write (kind : LeafKind) (value : kind.Value) : kind.read (kind.write value) = some value := by
  cases kind with
  | word =>
    change Leaf.word? (.integer (UInt64.toNat value)) = some value
    rw [Leaf.word?, if_pos ⟨Int.natCast_nonneg _, Int.ofNat_lt.2 (UInt64.toNat_lt_size value)⟩, Int.toNat_natCast,
      UInt64.ofNat_toNat]
  | text => rfl
  | mode => cases value <;> decide +kernel

end LeafKind

inductive Setting : LeafKind → Type where
  | pageSize : Setting .word
  | nameSpace : Setting .text
  | mode : Setting .mode
  | indexRoot : Setting .text
  | writerMemory : Setting .word
  | listProperty : Setting .text
  | keyMember : Setting .text
  | valueMember : Setting .text

namespace Setting

variable {kind : LeafKind}

def path : Setting kind → List String
  | pageSize => ["page_size"]
  | nameSpace => ["namespace"]
  | mode => ["generation_mode"]
  | indexRoot => ["index_root"]
  | writerMemory => ["writer_memory_mb"]
  | listProperty => ["mapped_list", "list_property"]
  | keyMember => ["mapped_list", "key_member"]
  | valueMember => ["mapped_list", "value_member"]

def get (settings : Settings) : Setting kind → kind.Value
  | pageSize => settings.pageSize
  | nameSpace => settings.nameSpace
  | mode => settings.mode
  | indexRoot => settings.indexRoot
  | writerMemory => settings.writerMemory
  | listProperty => settings.mappedList.listProperty
  | keyMember => settings.mappedList.keyMember
  | valueMember => settings.mappedList.valueMember

/-- Whether a layer sets a leaf, and what to: it lays one value at its path, or it lays nothing there. -/
inductive SetBy (setting : Setting kind) (layer : Json) : Option kind.Value → Prop where
  | unset (untouched : Key.touches setting.path layer = []) : SetBy setting layer none
  | set {tree : Json} {value : kind.Value} (touched : Key.touches setting.path layer = [some tree])
      (reads : kind.read tree = some value) : SetBy setting layer (some value)

variable {setting : Setting kind} {indexRoot : String} {tree layer : Json}

def assigned? (setting : Setting kind) (layer : Json) : Option (Option kind.Value) :=
  match Key.touches setting.path layer with
  | [] => some none
  | [some tree] => (kind.read tree).map some
  | _ => none

theorem setBy_iff {next : Option kind.Value} : setting.SetBy layer next ↔ setting.assigned? layer = some next := by
  unfold assigned?
  constructor
  · rintro (untouched | ⟨touched, reads⟩)
    · rw [untouched]
    · rw [touched]
      dsimp only
      rw [reads]
      rfl
  · split
    · rename_i untouched
      intro same
      cases same
      exact .unset untouched
    · rename_i tree touched
      intro same
      obtain ⟨value, reads, rfl⟩ := Option.map_eq_some_iff.1 same
      exact .set touched reads
    · exact nofun

instance {next : Option kind.Value} : Decidable (setting.SetBy layer next) := decidable_of_iff _ setBy_iff.symm

variable {value : kind.Value}

/-- What a leaf is in a tree of layers, a missing one being as in the standard settings. -/
def value? (indexRoot : String) (tree : Json) (setting : Setting kind) : Option kind.Value :=
  Leaf.orDefault (setting.get (Settings.standard indexRoot)) kind.read (Key.reach setting.path (some tree))

/-- What a leaf is in a tree that has nothing but tables on the way to it. -/
def Holds (setting : Setting kind) (indexRoot : String) (tree : Json) (value : kind.Value) : Prop :=
  ∃ found, Key.Leads setting.path found (some tree) ∧
    Leaf.orDefault (setting.get (Settings.standard indexRoot)) kind.read found = some value

theorem Holds.value? (holds : setting.Holds indexRoot tree value) : setting.value? indexRoot tree = some value := by
  obtain ⟨found, leads, same⟩ := holds
  unfold Setting.value?
  rw [leads.reach]
  exact same

theorem Holds.of_write (leads : Key.Leads setting.path (some (kind.write value)) (some tree)) :
    setting.Holds indexRoot tree value := ⟨_, leads, kind.read_write value⟩

theorem Holds.table {name : String} (inside : setting.path = ["mapped_list", name])
    (holds : setting.Holds indexRoot tree value) : Key.isOpen (Key.reach ["mapped_list"] (some tree)) = true := by
  obtain ⟨found, leads, -⟩ := holds
  rw [inside] at leads
  exact leads.2.1

theorem SetBy.merge {next : Option kind.Value} (setBy : setting.SetBy layer next)
    (holds : setting.Holds indexRoot tree value) : setting.Holds indexRoot (Key.merge tree layer) (next.getD value) := by
  obtain ⟨found, leads, same⟩ := holds
  cases setBy with
  | unset untouched =>
    have nothing : Key.touches setting.path layer = List.map some [] := untouched
    exact ⟨found, leads.merge nothing, same⟩
  | @set tree value touched reads =>
    have single : Key.touches setting.path layer = List.map some [tree] := touched
    exact ⟨_, leads.merge single, reads⟩

theorem merge_defaults (indexRoot : String) :
    Key.merge (.object []) (Leaf.defaults indexRoot) = Leaf.defaults indexRoot := by
  have keys : ["page_size", "namespace", "index_root", "writer_memory_mb"].map (fun name => Key.parse (Key.lower name)) =
      [[.member "page_size"], [.member "namespace"], [.member "index_root"], [.member "writer_memory_mb"]] := by
    decide +kernel
  simp only [List.map_cons, List.map_nil, List.cons.injEq] at keys
  simp only [Key.merge, Key.membersOf, Leaf.defaults, List.foldl_cons, List.foldl_nil, keys]
  rfl

theorem holds_defaults (setting : Setting kind) (indexRoot : String) :
    setting.Holds indexRoot (Leaf.defaults indexRoot) (setting.get (Settings.standard indexRoot)) := by
  cases setting with
  | pageSize | writerMemory | nameSpace | indexRoot => exact .of_write ⟨rfl, rfl⟩
  | mode => exact ⟨_, ⟨rfl, rfl⟩, rfl⟩
  | listProperty | keyMember | valueMember => exact ⟨_, ⟨rfl, rfl, rfl⟩, rfl⟩

end Setting

namespace Leaf

open Setting (value?)

variable {indexRoot : String} {tree : Json} {settings : Settings}

theorem settings?_eq (indexRoot : String) (tree : Json) : settings? indexRoot tree = (do
    let pageSize ← value? indexRoot tree .pageSize
    let nameSpace ← value? indexRoot tree .nameSpace
    let mode ← value? indexRoot tree .mode
    let root ← value? indexRoot tree .indexRoot
    let writerMemory ← value? indexRoot tree .writerMemory
    let mappedList ← orDefault MappedList.standard mappedList? (Key.reach ["mapped_list"] (some tree))
    return ⟨pageSize, nameSpace, mode, root, writerMemory, mappedList⟩) := rfl

theorem orDefault_mappedList? (indexRoot : String)
    (table : Key.isOpen (Key.reach ["mapped_list"] (some tree)) = true) :
    orDefault MappedList.standard mappedList? (Key.reach ["mapped_list"] (some tree)) = (do
      let listProperty ← value? indexRoot tree .listProperty
      let keyMember ← value? indexRoot tree .keyMember
      let valueMember ← value? indexRoot tree .valueMember
      return ⟨listProperty, keyMember, valueMember⟩) := by
  unfold Setting.value?
  change _ = (do
    let find (name : String) : Option Json :=
      Key.find? name (Key.membersOf ((Key.reach ["mapped_list"] (some tree)).getD .null))
    let listProperty ← orDefault MappedList.standard.listProperty text? (find "list_property")
    let keyMember ← orDefault MappedList.standard.keyMember text? (find "key_member")
    let valueMember ← orDefault MappedList.standard.valueMember text? (find "value_member")
    return (⟨listProperty, keyMember, valueMember⟩ : MappedList))
  generalize Key.reach ["mapped_list"] (some tree) = inner at table
  cases inner with
  | none => rfl
  | some tree =>
    cases tree with
    | object members => rfl
    | _ => cases table

theorem settings?_eq_some_iff (table : Key.isOpen (Key.reach ["mapped_list"] (some tree)) = true) :
    settings? indexRoot tree = some settings ↔
      ∀ {kind} (setting : Setting kind), setting.value? indexRoot tree = some (setting.get settings) := by
  rw [settings?_eq, orDefault_mappedList? indexRoot table]
  constructor
  · intro same
    simp only [Option.bind_eq_bind, Option.bind_eq_some_iff, Option.pure_def, Option.some.injEq] at same
    obtain ⟨_, pageSize, _, nameSpace, _, mode, _, root, _, memory, _, ⟨_, list, _, key, _, value, rfl⟩, rfl⟩ := same
    intro kind setting
    cases setting <;> assumption
  · intro each
    rw [each .pageSize, each .nameSpace, each .mode, each .indexRoot, each .writerMemory, each .listProperty,
      each .keyMember, each .valueMember]
    rfl

end Leaf

abbrev Assignment : Type := (kind : LeafKind) → Setting kind → Option kind.Value

namespace Assignment

def SetBy (assignment : Assignment) (layer : Json) : Prop :=
  ∀ kind (setting : Setting kind), setting.SetBy layer (assignment kind setting)

instance (assignment : Assignment) (layer : Json) : Decidable (assignment.SetBy layer) :=
  let sets {kind : LeafKind} (setting : Setting kind) := setting.SetBy layer (assignment kind setting)
  decidable_of_iff ((sets .pageSize ∧ sets .nameSpace ∧ sets .mode ∧ sets .indexRoot) ∧
      sets .writerMemory ∧ sets .listProperty ∧ sets .keyMember ∧ sets .valueMember) <| by
    constructor
    · rintro ⟨⟨pageSize, nameSpace, mode, indexRoot⟩, writerMemory, listProperty, keyMember, valueMember⟩ kind setting
      cases setting <;> assumption
    · intro each
      exact ⟨⟨each _ _, each _ _, each _ _, each _ _⟩, each _ _, each _ _, each _ _, each _ _⟩

end Assignment

namespace Settings

def ofLeaves (value : (kind : LeafKind) → Setting kind → kind.Value) : Settings where
  pageSize := value .word .pageSize
  nameSpace := value .text .nameSpace
  mode := value .mode .mode
  indexRoot := value .text .indexRoot
  writerMemory := value .word .writerMemory
  mappedList := ⟨value .text .listProperty, value .text .keyMember, value .text .valueMember⟩

theorem get_ofLeaves (value : (kind : LeafKind) → Setting kind → kind.Value) {kind : LeafKind} (setting : Setting kind) :
    setting.get (ofLeaves value) = value kind setting := by
  cases setting <;> rfl

theorem ext_get {left right : Settings} (same : ∀ kind (setting : Setting kind), setting.get left = setting.get right) :
    left = right := by
  obtain ⟨_, _, _, _, _, _, _, _⟩ := left
  obtain ⟨_, _, _, _, _, _, _, _⟩ := right
  cases same .word .pageSize
  cases same .text .nameSpace
  cases same .mode .mode
  cases same .text .indexRoot
  cases same .word .writerMemory
  cases same .text .listProperty
  cases same .text .keyMember
  cases same .text .valueMember
  rfl

def namedLayer (files : Table String) (named : Option String) : Except LoadFault Json :=
  match named with
  | some name => fileLayer true (Files.locate files name)
  | none => .ok (.object [])

def Faulty (settings : Settings) : Prop :=
  settings.pageSize = 0 ∨ settings.nameSpace = "" ∨ settings.mappedList.listProperty = ""

instance (settings : Settings) : Decidable settings.Faulty :=
  inferInstanceAs (Decidable (settings.pageSize = 0 ∨ settings.nameSpace = "" ∨ settings.mappedList.listProperty = ""))

theorem validate_cases (settings : Settings) :
    settings.validate = .ok () ∧ ¬ settings.Faulty ∨
      (∃ message, settings.validate = .error (.config message)) ∧ settings.Faulty := by
  unfold validate Faulty
  split
  · rename_i page
    exact .inr ⟨⟨_, rfl⟩, .inl page⟩
  · rename_i page
    split
    · rename_i name
      exact .inr ⟨⟨_, rfl⟩, .inr (.inl name)⟩
    · rename_i name
      split
      · rename_i list
        exact .inr ⟨⟨_, rfl⟩, .inr (.inr list)⟩
      · rename_i list
        exact .inl ⟨rfl, by simp [page, name, list]⟩

theorem ofLayers_cases {indexRoot : String} {layers : List Json} {settings : Settings}
    (read : Leaf.settings? indexRoot (Key.mergeAll (Leaf.defaults indexRoot :: layers)) = some settings) :
    ofLayers indexRoot layers = .ok settings ∧ ¬ settings.Faulty ∨
      (∃ message, ofLayers indexRoot layers = .error (.invalid (.config message))) ∧ settings.Faulty := by
  unfold ofLayers
  rw [read]
  dsimp only
  rcases settings.validate_cases with ⟨valid, sound⟩ | ⟨⟨message, invalid⟩, faulty⟩
  · rw [valid]
    exact .inl ⟨rfl, sound⟩
  · rw [invalid]
    exact .inr ⟨⟨message, rfl⟩, faulty⟩

theorem holds_mergeAll {kind : LeafKind} {setting : Setting kind} {first second third : Json}
    {user explicit environment : Option kind.Value} (indexRoot : String) (userSets : setting.SetBy first user)
    (explicitSets : setting.SetBy second explicit) (environmentSets : setting.SetBy third environment) :
    setting.Holds indexRoot (Key.mergeAll [Leaf.defaults indexRoot, first, second, third])
      (((environment.or explicit).or user).getD (setting.get (standard indexRoot))) := by
  have holds := environmentSets.merge (explicitSets.merge (userSets.merge (setting.holds_defaults indexRoot)))
  rw [← Setting.merge_defaults] at holds
  have same : environment.getD (explicit.getD (user.getD (setting.get (standard indexRoot)))) =
      ((environment.or explicit).or user).getD (setting.get (standard indexRoot)) := by
    cases environment <;> cases explicit <;> rfl
  exact same ▸ holds

theorem load_eq (surrounding : Surrounding) (named : Option String) :
    load surrounding named = (do
      let user ← fileLayer false (Files.locate surrounding.files surrounding.userFile)
      let explicit ← namedLayer surrounding.files named
      ofLayers surrounding.indexRoot [user, explicit, EnvironmentLayer.ofVariables surrounding.environment]) := by
  cases named <;> rfl

/-- Settings are resolved leaf by leaf: each is as the environment has it, else as the file that the caller names, else
as the user's file, else as in the standard settings. They are loaded unless the page size is zero or one of the two
names is empty that must not be. -/
theorem load_resolved {surrounding : Surrounding} {named : Option String} {userLayer explicitLayer : Json}
    {user explicit environment : Assignment}
    (userRead : fileLayer false (Files.locate surrounding.files surrounding.userFile) = .ok userLayer)
    (explicitRead : namedLayer surrounding.files named = .ok explicitLayer)
    (userSets : user.SetBy userLayer) (explicitSets : explicit.SetBy explicitLayer)
    (environmentSets : environment.SetBy (EnvironmentLayer.ofVariables surrounding.environment)) :
    ∃ settings : Settings,
      (∀ kind (setting : Setting kind), setting.get settings =
        (((environment kind setting).or (explicit kind setting)).or (user kind setting)).getD
          (setting.get (standard surrounding.indexRoot))) ∧
      (load surrounding named = .ok settings ∧ ¬ settings.Faulty ∨
        (∃ message, load surrounding named = .error (.invalid (.config message))) ∧ settings.Faulty) := by
  obtain ⟨settings, leaves⟩ : ∃ settings : Settings, ∀ kind (setting : Setting kind), setting.get settings =
      (((environment kind setting).or (explicit kind setting)).or (user kind setting)).getD
        (setting.get (standard surrounding.indexRoot)) :=
    ⟨ofLeaves fun kind setting => _, fun kind setting => get_ofLeaves _ setting⟩
  have holds {kind : LeafKind} (setting : Setting kind) := holds_mergeAll surrounding.indexRoot (userSets kind setting)
    (explicitSets kind setting) (environmentSets kind setting)
  refine ⟨settings, leaves, ?_⟩
  rw [load_eq, userRead, explicitRead]
  refine ofLayers_cases ?_
  refine (Leaf.settings?_eq_some_iff ((holds .listProperty).table rfl)).2 fun {kind} setting => ?_
  rw [leaves kind setting]
  exact (holds setting).value?

end Settings

namespace Trial

def account : Surrounding where
  environment := Table.ofList [("CATALOG_SEARCH_MAPPED_LIST__KEY_MEMBER", "title"), ("CATALOG_SEARCH_NAMESPACE", "acme"),
    ("HOME", "/home/shop"), ("XDG_CONFIG_HOME", "/etc")]
  files := Table.ofList [
    ("/etc/catalog-search/config.toml", "page_size = 25\n[mapped_list]\nlist_property = 'sku'\nkey_member = 'code'"),
    ("/work/settings.toml", "namespace = 'file'\nmapped_list.value_member = 'text'")]
  accountHome := "/root"

def userSets : Assignment
  | _, .pageSize => some 25
  | _, .listProperty => some "sku"
  | _, .keyMember => some "code"
  | _, _ => none

def explicitSets : Assignment
  | _, .nameSpace => some "file"
  | _, .valueMember => some "text"
  | _, _ => none

def environmentSets : Assignment
  | _, .nameSpace => some "acme"
  | _, .keyMember => some "title"
  | _, _ => none

def layer (read : Except LoadFault Json) : Json := read.toOption.getD .null

theorem eq_ok_layer {read : Except LoadFault Json} (isOk : read.isOk = true) : read = .ok (layer read) := by
  cases read with
  | error fault => cases isOk
  | ok layer => rfl

def userLayer : Json := layer (Settings.fileLayer false (Files.locate account.files account.userFile))

def explicitLayer : Json := layer (Settings.namedLayer account.files (some "/work/settings"))

end Trial

namespace Settings

/-- Each layer sets another one of the names of mapped lists, and two of them a name that a higher one sets as well. -/
theorem load_resolved_trial : load Trial.account (some "/work/settings") =
    .ok ⟨25, "acme", .dual, "/home/shop/.local/share/catalog-search/index", 50, ⟨"sku", "title", "text"⟩⟩ := by
  have userSets : Trial.userSets.SetBy Trial.userLayer := by decide +kernel
  have explicitSets : Trial.explicitSets.SetBy Trial.explicitLayer := by decide +kernel
  have environmentSets : Trial.environmentSets.SetBy (EnvironmentLayer.ofVariables Trial.account.environment) := by
    decide +kernel
  have root : Trial.account.indexRoot = "/home/shop/.local/share/catalog-search/index" := by decide +kernel
  obtain ⟨settings, leaves, outcome⟩ := load_resolved (Trial.eq_ok_layer (by decide +kernel))
    (Trial.eq_ok_layer (by decide +kernel)) userSets explicitSets environmentSets
  have same : settings = ⟨25, "acme", .dual, Trial.account.indexRoot, 50, ⟨"sku", "title", "text"⟩⟩ :=
    ext_get fun kind setting => (leaves kind setting).trans (by cases setting <;> rfl)
  rw [← root, ← same]
  rcases outcome with ⟨loaded, -⟩ | ⟨-, faulty⟩
  · exact loaded
  · rw [same] at faulty
    exact absurd faulty (by decide)

/-- A page size beyond the whole numbers of 64 bits with a sign is the nearest number of 53 bits. -/
theorem large_page_size_rounded :
    (load ⟨Table.ofList [("CATALOG_SEARCH_PAGE_SIZE", "9223372036854775809")], .empty, "/root"⟩ none).map (·.pageSize) =
      .ok 9223372036854775808 := by
  decide +kernel

end Settings

end CatalogIndex
