import CatalogIndex.Proofs.Identity
import CatalogIndex.Proofs.Numerals
import CatalogIndex.Proofs.Resolution
/-!
Texts out of the environment. What a setting becomes is the text of the value that the variable reads as, which need not
be spelled as the variable is; nothing else about the settings depends on the variable.
-/
namespace CatalogIndex

namespace Table

variable {α : Type} {key other : String} {value : α} {pairs : List (String × α)} {table : Table α}

theorem insert_comm (differ : key ≠ other) (table : Table α) (first second : α) :
    (table.insert key first).insert other second = (table.insert other second).insert key first := by
  refine ext_find? fun name => ?_
  simp only [find?_insert]
  split
  · rename_i same
    rw [if_neg (fun hit => differ (hit.symm.trans same))]
  · rfl

theorem foldl_insert (absent : ∀ pair ∈ pairs, pair.1 ≠ key) (table : Table α) (value : α) :
    pairs.foldl (fun table pair => table.insert pair.1 pair.2) (table.insert key value) =
      (pairs.foldl (fun table pair => table.insert pair.1 pair.2) table).insert key value := by
  induction pairs generalizing table with
  | nil => rfl
  | cons pair rest ih =>
    obtain ⟨differ, later⟩ := List.forall_mem_cons.1 absent
    rw [List.foldl_cons, insert_comm (Ne.symm differ), ih later]
    rfl

theorem ofList_append_cons {before after : List (String × α)} (absent : ∀ pair ∈ after, pair.1 ≠ key) :
    ofList (before ++ (key, value) :: after) = (ofList (before ++ after)).insert key value := by
  unfold ofList
  rw [List.foldl_append, List.foldl_cons, foldl_insert absent, List.foldl_append]

theorem not_key_of_ofList (missing : (ofList pairs).find? key = none) : ∀ pair ∈ pairs, pair.1 ≠ key := by
  unfold ofList at missing
  generalize (empty : Table α) = table at missing
  suffices both : table.find? key = none ∧ ∀ pair ∈ pairs, pair.1 ≠ key from both.2
  induction pairs generalizing table with
  | nil => exact ⟨missing, List.forall_mem_nil _⟩
  | cons pair rest ih =>
    obtain ⟨here, later⟩ := ih _ missing
    rw [find?_insert] at here
    split at here
    · cases here
    · rename_i differ
      exact ⟨here, List.forall_mem_cons.2 ⟨Ne.symm differ, later⟩⟩

theorem mem_of_seek {entries : List (String × α)} (found : seek key entries = some value) : (key, value) ∈ entries := by
  induction entries with
  | nil => cases found
  | cons entry rest ih =>
    unfold seek at found
    split at found
    · rename_i same
      cases found
      rw [same]
      exact List.mem_cons_self
    · exact List.mem_cons_of_mem _ (ih found)

theorem exists_place {entries : List (String × α)} (missing : seek key entries = none) (value : α) :
    ∃ before after, entries = before ++ after ∧ place key value entries = before ++ (key, value) :: after := by
  induction entries with
  | nil => exact ⟨[], [], rfl, rfl⟩
  | cons entry rest ih =>
    unfold seek at missing
    split at missing
    · cases missing
    · rename_i differ
      unfold place
      split
      · exact ⟨[], _, rfl, rfl⟩
      · obtain ⟨before, after, same, placed⟩ := ih missing
        exact ⟨entry :: before, after, congrArg _ same, congrArg _ placed⟩

end Table

namespace Setting

variable {kind : LeafKind}

def variableName : Setting kind → String
  | pageSize => "CATALOG_SEARCH_PAGE_SIZE"
  | nameSpace => "CATALOG_SEARCH_NAMESPACE"
  | mode => "CATALOG_SEARCH_GENERATION_MODE"
  | indexRoot => "CATALOG_SEARCH_INDEX_ROOT"
  | writerMemory => "CATALOG_SEARCH_WRITER_MEMORY_MB"
  | listProperty => "CATALOG_SEARCH_MAPPED_LIST__LIST_PROPERTY"
  | keyMember => "CATALOG_SEARCH_MAPPED_LIST__KEY_MEMBER"
  | valueMember => "CATALOG_SEARCH_MAPPED_LIST__VALUE_MEMBER"

def key (setting : Setting kind) : String := ".".intercalate setting.path

theorem keyOf?_variableName (setting : Setting kind) :
    EnvironmentLayer.keyOf? setting.variableName = some setting.key := by
  cases setting <;> decide +kernel

theorem parse_key (setting : Setting kind) : Key.parse (Key.lower setting.key) = setting.path.map .member := by
  cases setting <;> decide +kernel

end Setting

namespace EnvironmentLayer

variable {kind : LeafKind} {setting : Setting kind} {environment : Table String} {text : String}

def entry? (entry : String × String) : Option (String × Json) := (keyOf? entry.1).map fun key => (key, read entry.2)

theorem entry?_variableName (setting : Setting kind) (text : String) :
    entry? (setting.variableName, text) = some (setting.key, read text) := by
  unfold entry?
  rw [setting.keyOf?_variableName]
  rfl

theorem not_key_of_untouched {members : List (String × Json)} {value : Json}
    (untouched : Key.touches setting.path (.object members) = []) : (setting.key, value) ∉ members := by
  intro member
  have nothing := List.flatMap_eq_nil_iff.1 untouched _ member
  rw [setting.parse_key, Key.placed_members] at nothing
  exact Key.laid_nil_ne_nil value nothing

theorem ofVariables_insert (untouched : Key.touches setting.path (ofVariables environment) = []) (text : String) :
    ∃ before after, ofVariables environment = .object (before ++ after) ∧
      ofVariables (environment.insert setting.variableName text) =
        .object (before ++ (setting.key, read text) :: after) := by
  -- The name is new to the environment as well as to the layer, so each gets one more entry.
  have missing : (Table.ofList (environment.entries.filterMap entry?)).find? setting.key = none :=
    Option.eq_none_iff_forall_ne_some.2 fun _ found => not_key_of_untouched untouched (Table.mem_of_seek found)
  have others := Table.not_key_of_ofList missing
  have unset : Table.seek setting.variableName environment.entries = none :=
    Option.eq_none_iff_forall_ne_some.2 fun old found =>
      others _ (List.mem_filterMap.2 ⟨_, Table.mem_of_seek found, entry?_variableName setting old⟩) rfl
  obtain ⟨front, back, parts, placed⟩ := Table.exists_place unset text
  rw [parts, List.filterMap_append] at missing others
  obtain ⟨before, after, entries, inserted⟩ := Table.exists_place missing (read text)
  refine ⟨before, after, ?_, ?_⟩
  · change Json.object (Table.ofList (environment.entries.filterMap entry?)).entries = _
    rw [parts, List.filterMap_append, entries]
  · change Json.object (Table.ofList ((Table.place _ _ environment.entries).filterMap entry?)).entries = _
    have after : ∀ pair ∈ back.filterMap entry?, pair.1 ≠ setting.key := fun pair member =>
      others pair (List.mem_append_right _ member)
    rw [placed, List.filterMap_append, List.filterMap_cons_some (entry?_variableName setting text),
      Table.ofList_append_cons after]
    exact congrArg Json.object inserted

/-- The text that a text setting becomes: that of the value that the variable reads as. -/
def shown (text : String) : String := (Leaf.text? (read text)).getD text

theorem read_cases (text : String) : (∃ value, read text = .bool value) ∨ (∃ n, read text = .integer n) ∨
    (∃ x, read text = .decimal x) ∨ read text = .text text := by
  unfold read
  dsimp only
  split
  · exact .inl ⟨_, rfl⟩
  · split
    · exact .inl ⟨_, rfl⟩
    · split
      · exact .inr (.inl ⟨_, rfl⟩)
      · split
        · exact .inr (.inr (.inl ⟨_, rfl⟩))
        · exact .inr (.inr (.inr rfl))

theorem laid_read (text : String) : Key.laid [] (read text) = [some (read text)] := by
  rcases read_cases text with ⟨_, same⟩ | ⟨_, same⟩ | ⟨_, same⟩ | same <;> rw [same] <;> rfl

theorem text?_read (text : String) : Leaf.text? (read text) = some (shown text) := by
  unfold shown
  rcases read_cases text with ⟨_, same⟩ | ⟨_, same⟩ | ⟨_, same⟩ | same <;> rw [same] <;> rfl

theorem shown_of_text (plain : read text = .text text) : shown text = text := by
  unfold shown
  rw [plain]
  rfl

theorem ofInt_ne_empty (n : Int) : Numeral.ofInt n ≠ "" := by
  intro empty
  have none : Numeral.signed n = [] := String.ofList_injective empty
  unfold Numeral.signed at none
  split at none
  · cases none
  · exact Numeral.digits_ne_nil _ none

theorem display_ne_empty (x : Binary64) : x.display ≠ "" := by
  have body (digits : List Char) (some : digits ≠ []) (exponent : Int) :
      Binary64.displayLayout.plain digits exponent ≠ [] := by
    unfold Layout.plain
    dsimp only
    split
    · simp [some]
    · split <;> simp
  unfold Binary64.display
  split
  · decide
  · split
    · split <;> decide
    · intro empty
      have none : Binary64.displayLayout.write x = [] := String.ofList_injective empty
      unfold Layout.write at none
      dsimp only at none
      split at none
      · cases none
      · exact body _ (Numeral.digits_ne_nil _) _ none

theorem shown_ne_empty (nonempty : text ≠ "") : shown text ≠ "" := by
  have read := text?_read text
  rcases read_cases text with ⟨value, same⟩ | ⟨n, same⟩ | ⟨x, same⟩ | same <;> rw [same] at read <;>
    rw [← Option.some.inj read]
  · cases value <;> decide
  · exact ofInt_ne_empty n
  · exact display_ne_empty x
  · exact nonempty

theorem lower_ofInt (n : Int) : Key.lower (Numeral.ofInt n) = Numeral.ofInt n := by
  have same {c : Char} (member : c ∈ Numeral.signed n) : (if c = '\u212a' then 'k' else c.toLower) = c := by
    rcases Numeral.of_mem_signed member with rfl | digit
    · decide
    · have bounds := Numeral.isDigit_iff.1 digit
      have kelvin : c ≠ '\u212a' := by
        rintro rfl
        exact absurd bounds.2 (by decide)
      rw [if_neg kelvin]
      unfold Char.toLower
      split
      · rename_i upper
        have above : 65 ≤ c.toNat := upper.1
        omega
      · rfl
  unfold Key.lower
  rw [Numeral.ofInt, String.toList_ofList, List.map_congr_left fun c member => same member, List.map_id']

theorem sign_digits (n : Nat) : Binary64.sign (Numeral.digits n) = (false, Numeral.digits n) := by
  have digits := Numeral.all_isDigit_digits n
  unfold Binary64.sign
  split
  · rename_i same
    rw [same] at digits
    cases digits
  · rename_i same
    rw [same] at digits
    cases digits
  · rfl

theorem integer?_ofInt {n : Int} (fits : Value.fitsInteger n = true) : integer? (Numeral.ofInt n) = some n := by
  have signed : Binary64.sign (Numeral.signed n) = (decide (n < 0), Numeral.digits n.natAbs) := by
    unfold Numeral.signed
    split
    · rename_i negative
      rw [decide_eq_true negative]
      rfl
    · rename_i positive
      rw [decide_eq_false positive]
      exact sign_digits _
  have value : (if decide (n < 0) = true then -(n.natAbs : Int) else n.natAbs) = n := by
    split
    · rename_i negative
      have := of_decide_eq_true negative
      omega
    · rename_i positive
      have := of_decide_eq_false (Bool.not_eq_true _ ▸ positive)
      omega
  unfold integer?
  rw [Numeral.ofInt, String.toList_ofList, signed]
  dsimp only
  rw [Numeral.toNat?_digits, Option.bind_some, value, if_pos fits]

theorem shown_ofInt {n : Int} (fits : Value.fitsInteger n = true) : shown (Numeral.ofInt n) = Numeral.ofInt n := by
  have word {name : String} (letter : 'e' ∈ name.toList) : Key.lower (Numeral.ofInt n) ≠ name := by
    intro same
    rw [← same, lower_ofInt, Numeral.ofInt, String.toList_ofList] at letter
    rcases Numeral.of_mem_signed letter with minus | digit
    · cases minus
    · cases digit
  unfold shown read
  dsimp only
  rw [if_neg (word (by decide)), if_neg (word (by decide)), integer?_ofInt fits]
  rfl

end EnvironmentLayer

namespace Setting

variable {setting : Setting .text} {left right : Json} {root old text : String}

def put (text : String) : Setting .text → Settings → Settings
  | .nameSpace, settings => { settings with nameSpace := text }
  | .indexRoot, settings => { settings with indexRoot := text }
  | .listProperty, settings => { settings with mappedList.listProperty := text }
  | .keyMember, settings => { settings with mappedList.keyMember := text }
  | .valueMember, settings => { settings with mappedList.valueMember := text }

/-- Trees that differ in one leaf only come to settings that differ in it only, if to any. -/
theorem settings?_of_agreeOff (agree : Key.AgreeOff setting.path left right) (before : setting.Holds root left old)
    (after : setting.Holds root right text) :
    Leaf.settings? root right = (Leaf.settings? root left).map (setting.put text) := by
  have elsewhere {path : List String} (parts : Key.parted setting.path path = true) :
      Key.reach path (some right) = Key.reach path (some left) :=
    (show Key.AgreeOff setting.path ((some left).getD .null) ((some right).getD .null) from agree).reach parts |>.symm
  have same {kind : LeafKind} {other : Setting kind} (parts : Key.parted setting.path other.path = true) :
      other.value? root right = other.value? root left := by
    unfold value?
    rw [elsewhere parts]
  rw [Leaf.settings?_eq, Leaf.settings?_eq]
  -- Three leaves stand in the table of mapped lists and the others at the top, which are two ways of being read.
  cases setting with
  | nameSpace | indexRoot =>
    simp (disch := decide) only [same, elsewhere]
    rw [after.value?, before.value?]
    simp only [Option.bind_eq_bind, Option.bind_some, Option.map_bind, Function.comp_def]
    rfl
  | listProperty | keyMember | valueMember =>
    rw [Leaf.orDefault_mappedList? root (before.table rfl), Leaf.orDefault_mappedList? root (after.table rfl)]
    simp (disch := decide) only [same]
    rw [after.value?, before.value?]
    simp only [Option.bind_eq_bind, Option.bind_some, Option.map_bind, Function.comp_def, Option.pure_def,
      Option.bind_assoc]
    rfl

theorem get_put (text : String) (setting : Setting .text) (settings : Settings) :
    setting.get (setting.put text settings) = text := by
  cases setting <;> rfl

/-- Where a leaf is as in the standard settings, another text in its place does not make settings faulty. -/
theorem validate_put {settings : Settings} (standard : setting.get settings = setting.get (.standard root))
    (nonempty : text ≠ "") : (setting.put text settings).validate = settings.validate := by
  cases setting with
  | nameSpace =>
    have before : settings.nameSpace ≠ "" := by
      change settings.nameSpace = "d" at standard
      rw [standard]
      decide
    unfold Settings.validate put
    rw [if_neg before, if_neg nonempty]
  | listProperty =>
    have before : settings.mappedList.listProperty ≠ "" := by
      change settings.mappedList.listProperty = "productAttributes" at standard
      rw [standard]
      decide
    unfold Settings.validate put
    rw [if_neg before, if_neg nonempty]
  | indexRoot | keyMember | valueMember => rfl

theorem ofLayers_put {layers others : List Json} (nonempty : text ≠ "")
    (differ : Leaf.settings? root (Key.mergeAll (Leaf.defaults root :: others)) =
      (Leaf.settings? root (Key.mergeAll (Leaf.defaults root :: layers))).map (setting.put text))
    (standard : ∀ settings, Leaf.settings? root (Key.mergeAll (Leaf.defaults root :: layers)) = some settings →
      setting.get settings = setting.get (.standard root)) :
    Settings.ofLayers root others = (Settings.ofLayers root layers).map (setting.put text) := by
  unfold Settings.ofLayers
  rw [differ]
  cases read : Leaf.settings? root (Key.mergeAll (Leaf.defaults root :: layers)) with
  | none => rfl
  | some settings =>
    rw [Option.map_some]
    dsimp only
    rw [validate_put (standard settings read) nonempty]
    cases settings.validate <;> rfl

theorem ofLayers_entry {first second : Json} {before after : List (String × Json)} {key : String} {value : Json}
    (named : Key.parse (Key.lower key) = setting.path.map .member) (leaf : Key.laid [] value = [some value])
    (reads : Leaf.text? value = some text) (nonempty : text ≠ "") (firstUnset : Key.touches setting.path first = [])
    (secondUnset : Key.touches setting.path second = [])
    (unset : Key.touches setting.path (.object (before ++ after)) = []) :
    Settings.ofLayers root [first, second, .object (before ++ (key, value) :: after)] =
      (Settings.ofLayers root [first, second, .object (before ++ after)]).map (setting.put text) := by
  obtain ⟨touched, agree⟩ := Key.merge_entry named leaf unset (Key.mergeAll [Leaf.defaults root, first, second])
  have without := Settings.holds_mergeAll root (.unset firstUnset) (.unset secondUnset) (.unset unset)
  have within := Settings.holds_mergeAll root (.unset firstUnset) (.unset secondUnset) (.set touched reads)
  refine ofLayers_put nonempty (settings?_of_agreeOff agree without within) fun settings read => ?_
  have itself := settings?_of_agreeOff (.refl _ _) without without
  rw [read, Option.map_some] at itself
  exact (congrArg setting.get (Option.some.inj itself)).trans (get_put _ _ _)

end Setting

namespace Surrounding

variable {kind : LeafKind}

def withVariable (surrounding : Surrounding) (name text : String) : Surrounding :=
  { surrounding with environment := surrounding.environment.insert name text }

theorem find?_withVariable (surrounding : Surrounding) (setting : Setting kind) (text : String) {name : String}
    (directory : name ∈ ["HOME", "XDG_DATA_HOME", "XDG_CONFIG_HOME"]) :
    (surrounding.withVariable setting.variableName text).environment.find? name = surrounding.environment.find? name := by
  refine Table.find?_insert_of_ne _ ?_ text
  rintro rfl
  revert directory
  cases setting <;> decide

theorem directories_withVariable (surrounding : Surrounding) (setting : Setting kind) (text : String) :
    (surrounding.withVariable setting.variableName text).indexRoot = surrounding.indexRoot ∧
      (surrounding.withVariable setting.variableName text).userFile = surrounding.userFile := by
  have same {name : String} (directory : name ∈ ["HOME", "XDG_DATA_HOME", "XDG_CONFIG_HOME"]) :=
    surrounding.find?_withVariable setting text directory
  unfold indexRoot userFile directory? home
  rw [same (by decide), same (by decide), same (by decide)]
  exact ⟨rfl, rfl⟩

end Surrounding

namespace Settings

theorem load_withVariable {setting : Setting .text} {surrounding : Surrounding} {named : Option String} {text : String}
    (nonempty : text ≠ "")
    (userUnset : ∀ layer, fileLayer false (Files.locate surrounding.files surrounding.userFile) = .ok layer →
      Key.touches setting.path layer = [])
    (explicitUnset : ∀ layer, namedLayer surrounding.files named = .ok layer → Key.touches setting.path layer = [])
    (unset : Key.touches setting.path (EnvironmentLayer.ofVariables surrounding.environment) = []) :
    load (surrounding.withVariable setting.variableName text) named =
      (load surrounding named).map (setting.put (EnvironmentLayer.shown text)) := by
  obtain ⟨root, file⟩ := surrounding.directories_withVariable setting text
  obtain ⟨before, after, others, all⟩ := EnvironmentLayer.ofVariables_insert unset text
  rw [load_eq, load_eq, root, file]
  change (fileLayer false (Files.locate surrounding.files _) >>= _) = _
  cases user : fileLayer false (Files.locate surrounding.files surrounding.userFile) with
  | error fault => rfl
  | ok userLayer =>
    change (namedLayer surrounding.files named >>= _) = _
    cases explicit : namedLayer surrounding.files named with
    | error fault => rfl
    | ok explicitLayer =>
      change ofLayers _ [_, _, EnvironmentLayer.ofVariables (surrounding.environment.insert _ _)] = Except.map _
        (ofLayers _ [_, _, EnvironmentLayer.ofVariables surrounding.environment])
      rw [all, others]
      exact Setting.ofLayers_entry setting.parse_key (EnvironmentLayer.laid_read text) (EnvironmentLayer.text?_read text)
        (EnvironmentLayer.shown_ne_empty nonempty) (userUnset _ user) (explicitUnset _ explicit) (others ▸ unset)

/-- A variable for a text leaf that nothing else sets decides this leaf and no other one. What arrives there is its text
as shown, which is the text itself if this reads as no truth value and no number, or if it is the numeral of a whole
number. Only deployments whose namespaces are shown alike write documents of the same id. -/
theorem variable_as_shown {setting : Setting .text} {surrounding : Surrounding} {named : Option String} {text : String}
    (nonempty : text ≠ "")
    (userUnset : ∀ layer, fileLayer false (Files.locate surrounding.files surrounding.userFile) = .ok layer →
      Key.touches setting.path layer = [])
    (explicitUnset : ∀ layer, namedLayer surrounding.files named = .ok layer → Key.touches setting.path layer = [])
    (unset : Key.touches setting.path (EnvironmentLayer.ofVariables surrounding.environment) = []) :
    load (surrounding.withVariable setting.variableName text) named =
        (load surrounding named).map (setting.put (EnvironmentLayer.shown text)) ∧
      (∀ settings, load (surrounding.withVariable setting.variableName text) named = .ok settings →
        setting.get settings = EnvironmentLayer.shown text) ∧
      (EnvironmentLayer.read text = .text text → EnvironmentLayer.shown text = text) ∧
      (∀ n, Value.fitsInteger n = true → text = Numeral.ofInt n → EnvironmentLayer.shown text = text) ∧
      ∀ other item otherItem, EnvironmentLayer.shown text ≠ EnvironmentLayer.shown other →
        Naming.documentId (EnvironmentLayer.shown text) item ≠
          Naming.documentId (EnvironmentLayer.shown other) otherItem := by
  have loaded := load_withVariable nonempty userUnset explicitUnset unset
  refine ⟨loaded, fun settings same => ?_, EnvironmentLayer.shown_of_text, fun n fits same => ?_,
    fun other item otherItem differ same => differ (Naming.nameSpace_of_documentId same)⟩
  · rw [loaded] at same
    cases before : load surrounding named with
    | error fault =>
      rw [before] at same
      cases same
    | ok plain =>
      rw [before] at same
      cases same
      exact Setting.get_put _ _ _
  · rw [same]
    exact EnvironmentLayer.shown_ofInt fits

end Settings

namespace Trial

def deployment : Surrounding :=
  ⟨Table.ofList [("CATALOG_SEARCH_PAGE_SIZE", "25"), ("HOME", "/home/shop")], .empty, "/root"⟩

end Trial

namespace Settings

theorem variable_as_shown_trial :
    load (Trial.deployment.withVariable "CATALOG_SEARCH_NAMESPACE" "1e3") none =
      .ok { standard "/home/shop/.local/share/catalog-search/index" with pageSize := 25, nameSpace := "1000" } := by
  have missing : Files.locate Trial.deployment.files Trial.deployment.userFile = .missing := by decide +kernel
  have unset : Key.touches Setting.nameSpace.path (EnvironmentLayer.ofVariables Trial.deployment.environment) = [] :=
    List.isEmpty_iff.1 (by decide +kernel)
  have plain : load Trial.deployment none =
      .ok { standard "/home/shop/.local/share/catalog-search/index" with pageSize := 25 } := by decide +kernel
  have shown : EnvironmentLayer.shown "1e3" = "1000" := by decide +kernel
  obtain ⟨loaded, -⟩ := @variable_as_shown .nameSpace Trial.deployment none "1e3" (by decide)
    (fun layer same => by
      rw [missing] at same
      cases same
      rfl)
    (fun layer same => by
      cases same
      rfl)
    unset
  rw [plain, shown] at loaded
  exact loaded

/-- A namespace of digits arrives without its leading zeros, so it is not kept apart from the one without them. -/
theorem namespace_of_digits :
    (load (Trial.deployment.withVariable "CATALOG_SEARCH_NAMESPACE" "007") none).map (·.nameSpace) = .ok "7" ∧
      (load (Trial.deployment.withVariable "CATALOG_SEARCH_NAMESPACE" "7") none).map (·.nameSpace) = .ok "7" := by
  decide +kernel

end Settings

end CatalogIndex
