import CatalogIndex.Proofs.PathGrammar
/-!
Addresses and their texts. The text of an address is read back step by step, and the path that comes of it finds in
every item exactly the attribute to which the steps lead.
-/
namespace CatalogIndex

namespace Attribute

def Keyed (mapped : MappedList) (key : String) (element : Attribute) : Prop :=
  element.member? mapped.keyMember = some (.value (.text key))

/-- What a key picks: the value member of the first element with that key, or of the entry of that name. -/
inductive Picks (mapped : MappedList) (key : String) : Attribute → Attribute → Prop where
  | element {before after : List Attribute} {element child : Attribute} (keyed : element.Keyed mapped key)
      (first : ∀ other ∈ before, ¬other.Keyed mapped key) (valued : element.member? mapped.valueMember = some child) :
      Picks mapped key (.list (before ++ element :: after)) child
  | entry {members : List (String × Attribute)} {entry child : Attribute}
      (held : (object members).member? key = some entry) (valued : entry.member? mapped.valueMember = some child) :
      Picks mapped key (.object members) child

inductive Finds (mapped : MappedList) : Step → Attribute → Attribute → Prop where
  | name {name : String} {members : List (String × Attribute)} {child : Attribute}
      (held : (object members).member? name = some child) : Finds mapped (.name name) (.object members) child
  | index {position : UInt64} {items : List Attribute} {child : Attribute}
      (held : items[position.toNat]? = some child) : Finds mapped (.index position) (.list items) child
  | mapped {key : String} {members : List (String × Attribute)} {held child : Attribute}
      (inside : (object members).member? mapped.listProperty = some held) (picked : Picks mapped key held child) :
      Finds mapped (.mapped key) (.object members) child

inductive Leads (mapped : MappedList) : Address → Attribute → Attribute → Prop where
  | here (tree : Attribute) : Leads mapped [] tree tree
  | step {step : Step} {rest : Address} {tree child last : Attribute} (finds : Finds mapped step tree child)
      (later : Leads mapped rest child last) : Leads mapped (step :: rest) tree last

end Attribute

namespace Item

/-- What an item shows under a name: its id, or else an attribute. -/
inductive Shows (item : Item) : String → Attribute → Prop where
  | id : Shows item "id" (.value (.integer item.id))
  | held {name : String} {tree : Attribute} (other : name ≠ "id") (stored : item.attributes.find? name = some tree) :
      Shows item name tree

inductive Begins (mapped : MappedList) (item : Item) : Step → Attribute → Prop where
  | name {name : String} {tree : Attribute} (shown : item.Shows name tree) : Begins mapped item (.name name) tree
  | mapped {key : String} {held tree : Attribute} (shown : item.Shows mapped.listProperty held)
      (picked : Attribute.Picks mapped key held tree) : Begins mapped item (.mapped key) tree

def LeadsTo (mapped : MappedList) (item : Item) (address : Address) (tree : Attribute) : Prop :=
  ∃ first rest held, address = first :: rest ∧ item.Begins mapped first held ∧ Attribute.Leads mapped rest held tree

end Item

def IsFragment (text : String) : Prop := text ≠ "" ∧ '.' ∉ text.toList

instance (text : String) : Decidable (IsFragment text) := inferInstanceAs (Decidable (_ ∧ _))

namespace Step

def name? : Step → Option String
  | .name text => some text
  | _ => none

def index? : Step → Option UInt64
  | .index position => some position
  | _ => none

def key? : Step → Option String
  | .mapped key => some key
  | _ => none

end Step

namespace Address

structure Writable (listProperty : String) (address : Address) : Prop where
  property : IsFragment listProperty
  nonempty : address ≠ []
  start : address.head?.bind Step.index? = none
  names : ∀ name ∈ address.filterMap Step.name?, IsFragment name ∧ name ≠ listProperty
  later : ∀ name ∈ address.tail.filterMap Step.name?, ¬name.toList.all Numeral.isDigit
  keys : ∀ key ∈ address.filterMap Step.key?, IsFragment key

/-- No index of an address is written like the list property. -/
def Apart (listProperty : String) (address : Address) : Prop :=
  ∀ position ∈ address.filterMap Step.index?, Numeral.ofNat position.toNat ≠ listProperty

instance (listProperty : String) (address : Address) : Decidable (address.Writable listProperty) :=
  decidable_of_iff (IsFragment listProperty ∧ address ≠ [] ∧ address.head?.bind Step.index? = none ∧
    (∀ name ∈ address.filterMap Step.name?, IsFragment name ∧ name ≠ listProperty) ∧
    (∀ name ∈ address.tail.filterMap Step.name?, ¬name.toList.all Numeral.isDigit) ∧
    ∀ key ∈ address.filterMap Step.key?, IsFragment key)
    ⟨fun ⟨property, nonempty, start, names, later, keys⟩ => ⟨property, nonempty, start, names, later, keys⟩,
      fun ⟨property, nonempty, start, names, later, keys⟩ => ⟨property, nonempty, start, names, later, keys⟩⟩

end Address

namespace Step

def segments (listProperty : String) : Step → List Segment
  | .name text => [.name text]
  | .index position => [.index position]
  | .mapped key => [.name listProperty, .key key]

end Step

namespace PropertyPath

open Attribute (Keyed Picks Finds Leads)

variable {mapped : MappedList}

theorem asText_eq_some {tree : Attribute} {key : String} : tree.asText = some key ↔ tree = .value (.text key) := by
  cases tree with
  | value scalar => cases scalar <;> simp [Attribute.asText, Attribute.asValue, Value.asText]
  | list items => simp [Attribute.asText, Attribute.asValue]
  | object members => simp [Attribute.asText, Attribute.asValue]

theorem keyed_iff {key : String} {element : Attribute} :
    (((element.member? mapped.keyMember).bind Attribute.asText) == some key) = true ↔ element.Keyed mapped key := by
  rw [beq_iff_eq, Option.bind_eq_some_iff]
  simp only [asText_eq_some, Keyed]
  exact ⟨fun ⟨_, held, same⟩ => same ▸ held, fun held => ⟨_, held, rfl⟩⟩

theorem step_key_iff {key : String} {tree child : Attribute} :
    step mapped.keyMember mapped.valueMember (.key key) tree = some child ↔ Picks mapped key tree child := by
  cases tree with
  | value scalar => exact ⟨nofun, nofun⟩
  | list items =>
    -- The element that is found is the one with the key that has none with the key before it.
    simp only [step, Option.bind_eq_some_iff, List.find?_eq_some_iff_append, keyed_iff, Bool.not_eq_true']
    constructor
    · rintro ⟨element, ⟨keyed, before, after, rfl, first⟩, valued⟩
      exact .element keyed (fun other member known => by
        have unkeyed := first other member
        rw [keyed_iff.2 known] at unkeyed
        cases unkeyed) valued
    · intro picks
      cases picks with
      | @element before after element child keyed first valued =>
        exact ⟨element, ⟨keyed, before, after, rfl, fun other member =>
          Bool.eq_false_iff.2 fun known => first other member (keyed_iff.1 known)⟩, valued⟩
  | object members =>
    simp only [step, Option.bind_eq_some_iff]
    constructor
    · rintro ⟨entry, held, valued⟩
      exact .entry held valued
    · intro picks
      cases picks with
      | entry held valued => exact ⟨_, held, valued⟩

theorem follow_append (first second : List Segment) (tree : Attribute) :
    follow mapped.keyMember mapped.valueMember (first ++ second) tree =
      (follow mapped.keyMember mapped.valueMember first tree).bind
        (follow mapped.keyMember mapped.valueMember second) :=
  List.foldlM_append

theorem follow_single (segment : Segment) (tree : Attribute) :
    follow mapped.keyMember mapped.valueMember [segment] tree =
      step mapped.keyMember mapped.valueMember segment tree :=
  Option.bind_fun_some _

theorem follow_segments_iff {step : Step} {tree child : Attribute} :
    follow mapped.keyMember mapped.valueMember (step.segments mapped.listProperty) tree = some child ↔
      Finds mapped step tree child := by
  cases step with
  | name name =>
    rw [Step.segments, follow_single]
    cases tree with
    | object members => exact ⟨.name, fun | .name held => held⟩
    | _ => exact ⟨nofun, nofun⟩
  | index position =>
    rw [Step.segments, follow_single]
    cases tree with
    | list items => exact ⟨.index, fun | .index held => held⟩
    | _ => exact ⟨nofun, nofun⟩
  | mapped key =>
    have both : Step.segments mapped.listProperty (.mapped key) = [.name mapped.listProperty] ++ [.key key] := rfl
    rw [both, follow_append, follow_single, Option.bind_eq_some_iff]
    simp only [follow_single, step_key_iff]
    cases tree with
    | object members =>
      constructor
      · rintro ⟨held, inside, picked⟩
        exact .mapped inside picked
      · intro finds
        cases finds with
        | mapped inside picked => exact ⟨_, inside, picked⟩
    | _ =>
      refine ⟨?_, nofun⟩
      rintro ⟨held, inside, -⟩
      cases inside

theorem follow_address_iff {address : Address} {tree last : Attribute} :
    follow mapped.keyMember mapped.valueMember (address.flatMap (Step.segments mapped.listProperty)) tree = some last ↔
      Leads mapped address tree last := by
  induction address generalizing tree with
  | nil =>
    constructor
    · intro same
      cases same
      exact .here _
    · intro leads
      cases leads
      rfl
  | cons step rest ih =>
    rw [List.flatMap_cons, follow_append, Option.bind_eq_some_iff]
    constructor
    · rintro ⟨child, found, later⟩
      exact .step (follow_segments_iff.1 found) (ih.1 later)
    · intro leads
      cases leads with
      | step finds later => exact ⟨_, follow_segments_iff.2 finds, ih.2 later⟩

theorem property?_eq_some_iff {item : Item} {name : String} {tree : Attribute} :
    property? item name = some tree ↔ item.Shows name tree := by
  unfold property? idProperty
  constructor
  · intro held
    split at held
    · rename_i isId
      cases held
      exact isId ▸ .id
    · rename_i other
      exact .held other held
  · intro shows
    cases shows with
    | id => rfl
    | held other stored => rw [if_neg other, stored]

end PropertyPath

/-! ### Addresses are read back -/

theorem not_mem_dot_numeral (n : Nat) : '.' ∉ Numeral.digits n := fun member =>
  absurd (List.all_eq_true.1 (Numeral.all_isDigit_digits n) '.' member) (by decide)

namespace Step

def Readable (listProperty : String) (first : Bool) : Step → Prop
  | .name text => IsFragment text ∧ text ≠ listProperty ∧ (first = false → ¬text.toList.all Numeral.isDigit)
  | .index position => first = false ∧ Numeral.ofNat position.toNat ≠ listProperty
  | .mapped key => IsFragment key ∧ IsFragment listProperty

variable {listProperty : String} {first : Bool} {step : Step}

theorem Readable.dot_not_mem (readable : step.Readable listProperty first) :
    ∀ part ∈ step.fragments listProperty, '.' ∉ part.toList := by
  intro part member
  cases step with
  | name name =>
    rw [List.mem_singleton.1 member]
    exact readable.1.2
  | index position =>
    rw [List.mem_singleton.1 member, Numeral.ofNat, String.toList_ofList]
    exact not_mem_dot_numeral _
  | mapped key =>
    obtain rfl | isKey := List.mem_cons.1 member
    · exact readable.2.2
    · rw [List.mem_singleton.1 isKey]
      exact readable.1.2

theorem Readable.readSegments (readable : step.Readable listProperty first) (rest : List String) :
    PropertyPath.readSegments listProperty first (step.fragments listProperty ++ rest) =
      (PropertyPath.readSegments listProperty false rest).map (step.segments listProperty ++ ·) := by
  cases step with
  | name text =>
    obtain ⟨⟨isText, -⟩, plain, noNumber⟩ := readable
    have noIndex : ¬(!first && text.toList.all Numeral.isDigit) = true := by
      intro index
      obtain ⟨notFirst, digits⟩ := Bool.and_eq_true_iff.1 index
      exact noNumber (by simpa using notFirst) digits
    exact PropertyPath.readSegments_name isText plain noIndex rest
  | index position =>
    obtain ⟨rfl, plain⟩ := readable
    have numeral : (Numeral.ofNat position.toNat).toList = Numeral.digits position.toNat := String.toList_ofList
    have isText : Numeral.ofNat position.toNat ≠ "" := by
      intro none
      rw [none] at numeral
      exact Numeral.digits_ne_nil _ numeral.symm
    have digits : (Numeral.ofNat position.toNat).toList.all Numeral.isDigit = true := by
      rw [numeral, Numeral.all_isDigit_digits]
    have back : Numeral.value (Numeral.ofNat position.toNat).toList = position.toNat := by
      rw [numeral, Numeral.value_digits]
    have small : Numeral.value (Numeral.ofNat position.toNat).toList < UInt64.size := by
      rw [back]
      exact position.toNat_lt
    have read := PropertyPath.readSegments_index isText plain digits small rest
    rw [back, UInt64.ofNat_toNat] at read
    exact read
  | mapped key =>
    obtain ⟨⟨isKeyText, -⟩, isText, -⟩ := readable
    exact PropertyPath.readSegments_keyed isText isKeyText rest

end Step

namespace Address

variable {listProperty : String} {address : Address}

theorem readSegments_later (readable : ∀ step ∈ address, step.Readable listProperty false) :
    PropertyPath.readSegments listProperty false (address.flatMap (Step.fragments listProperty)) =
      .ok (address.flatMap (Step.segments listProperty)) := by
  induction address with
  | nil => rfl
  | cons step rest ih =>
    rw [List.flatMap_cons, List.flatMap_cons, (readable step List.mem_cons_self).readSegments,
      ih fun other member => readable other (List.mem_cons_of_mem _ member)]
    rfl

theorem Writable.readable (writable : address.Writable listProperty) (apart : address.Apart listProperty) :
    ∃ first rest, address = first :: rest ∧ first.Readable listProperty true ∧
      ∀ step ∈ rest, step.Readable listProperty false := by
  cases address with
  | nil => exact absurd rfl writable.nonempty
  | cons first rest =>
    refine ⟨first, rest, rfl, ?_, fun step member => ?_⟩
    · cases first with
      | name text =>
        obtain ⟨isText, plain⟩ := writable.names text (List.mem_filterMap.2 ⟨_, List.mem_cons_self, rfl⟩)
        exact ⟨isText, plain, nofun⟩
      | index position => exact absurd writable.start nofun
      | mapped key =>
        exact ⟨writable.keys key (List.mem_filterMap.2 ⟨_, List.mem_cons_self, rfl⟩), writable.property⟩
    · have among := List.mem_cons_of_mem first member
      cases step with
      | name text =>
        obtain ⟨isText, plain⟩ := writable.names text (List.mem_filterMap.2 ⟨_, among, rfl⟩)
        exact ⟨isText, plain, fun _ => writable.later text (List.mem_filterMap.2 ⟨_, member, rfl⟩)⟩
      | index position => exact ⟨rfl, apart position (List.mem_filterMap.2 ⟨_, among, rfl⟩)⟩
      | mapped key => exact ⟨writable.keys key (List.mem_filterMap.2 ⟨_, among, rfl⟩), writable.property⟩

theorem readSegments_fragments (writable : address.Writable listProperty) (apart : address.Apart listProperty) :
    PropertyPath.readSegments listProperty true (address.flatMap (Step.fragments listProperty)) =
      .ok (address.flatMap (Step.segments listProperty)) := by
  obtain ⟨first, rest, rfl, start, later⟩ := writable.readable apart
  rw [List.flatMap_cons, List.flatMap_cons, start.readSegments, readSegments_later later]
  rfl

theorem fragments_render (writable : address.Writable listProperty) (apart : address.Apart listProperty) :
    PropertyPath.fragments (address.render listProperty) = address.flatMap (Step.fragments listProperty) := by
  obtain ⟨first, rest, rfl, start, later⟩ := writable.readable apart
  refine PropertyPath.fragments_intercalate ?_ fun part member => ?_
  · cases first <;> exact List.cons_ne_nil _ _
  · obtain ⟨step, among, within⟩ := List.mem_flatMap.1 member
    obtain rfl | among := List.mem_cons.1 among
    · exact start.dot_not_mem part within
    · exact (later step among).dot_not_mem part within

end Address

namespace PropertyPath

variable {mapped : MappedList} {address : Address}

def ofAddress (mapped : MappedList) (address : Address) : PropertyPath :=
  ⟨address.render mapped.listProperty, address.flatMap (Step.segments mapped.listProperty), mapped.keyMember,
    mapped.valueMember⟩

theorem parse_render (writable : address.Writable mapped.listProperty)
    (apart : address.Apart mapped.listProperty) :
    parse mapped (address.render mapped.listProperty) = .ok (ofAddress mapped address) := by
  have read : readSegments mapped.listProperty true (fragments (address.render mapped.listProperty)) =
      .ok (address.flatMap (Step.segments mapped.listProperty)) := by
    rw [Address.fragments_render writable apart, Address.readSegments_fragments writable apart]
  exact parse_of_read read

theorem ofAddress_starts (nonempty : address ≠ []) (start : address.head?.bind Step.index? = none) :
    ∃ name later, (ofAddress mapped address).segments = .name name :: later := by
  cases address with
  | nil => exact absurd rfl nonempty
  | cons first rest =>
    cases first with
    | index position => exact absurd start nofun
    | name name => exact ⟨name, _, rfl⟩
    | mapped key => exact ⟨mapped.listProperty, _, rfl⟩

theorem evaluate_eq_ok_iff {path : PropertyPath} {name : String} {later : List Segment}
    (starts : path.segments = .name name :: later) {item : Item} {tree : Attribute} :
    path.evaluate item = .ok tree ↔
      ∃ held, item.Shows name held ∧ follow path.keyMember path.valueMember later held = some tree := by
  simp only [← property?_eq_some_iff, ← Option.bind_eq_some_iff]
  obtain ⟨found, evaluated, same⟩ | ⟨missing, none⟩ := evaluate_cases starts item
  · rw [evaluated, same]
    simp
  · rw [missing, none]
    simp

theorem evaluate_ofAddress_iff (nonempty : address ≠ []) (start : address.head?.bind Step.index? = none)
    {item : Item} {tree : Attribute} :
    (ofAddress mapped address).evaluate item = .ok tree ↔ item.LeadsTo mapped address tree := by
  cases address with
  | nil => exact absurd rfl nonempty
  | cons first rest =>
    have leadsTo : item.LeadsTo mapped (first :: rest) tree ↔
        ∃ held, item.Begins mapped first held ∧ Attribute.Leads mapped rest held tree := by
      constructor
      · rintro ⟨_, _, held, same, begins, leads⟩
        cases same
        exact ⟨held, begins, leads⟩
      · rintro ⟨held, begins, leads⟩
        exact ⟨first, rest, held, rfl, begins, leads⟩
    rw [leadsTo]
    -- The list property is a name too, so a path may start with it as with any other name.
    cases first with
    | index position => exact absurd start nofun
    | name name =>
      have starts : (ofAddress mapped (.name name :: rest)).segments =
          .name name :: rest.flatMap (Step.segments mapped.listProperty) := rfl
      rw [evaluate_eq_ok_iff starts]
      simp only [ofAddress, follow_address_iff]
      constructor
      · rintro ⟨held, shown, leads⟩
        exact ⟨held, .name shown, leads⟩
      · rintro ⟨held, begins, leads⟩
        cases begins with
        | name shown => exact ⟨held, shown, leads⟩
    | mapped key =>
      have starts : (ofAddress mapped (.mapped key :: rest)).segments =
          .name mapped.listProperty :: ([.key key] ++ rest.flatMap (Step.segments mapped.listProperty)) := rfl
      rw [evaluate_eq_ok_iff starts]
      simp only [ofAddress, follow_append, follow_single, Option.bind_eq_some_iff, step_key_iff, follow_address_iff]
      constructor
      · rintro ⟨held, shown, picked, picks, leads⟩
        exact ⟨picked, .mapped shown picks, leads⟩
      · rintro ⟨picked, begins, leads⟩
        cases begins with
        | mapped shown picks => exact ⟨_, shown, picked, picks, leads⟩

/-- A writable address none of whose indices is written like the list property is read back from its text. The path
finds the attribute to which the address leads, and misses a property where it leads nowhere. -/
theorem evaluate_rendered (mapped : MappedList) (address : Address) (writable : address.Writable mapped.listProperty)
    (apart : address.Apart mapped.listProperty) :
    ∃ path, parse mapped (address.render mapped.listProperty) = .ok path ∧
      ∀ item : Item,
        (∀ tree, path.evaluate item = .ok tree ↔ item.LeadsTo mapped address tree) ∧
        ((∀ tree, ¬item.LeadsTo mapped address tree) →
          path.evaluate item = .error (.missingProperty (address.render mapped.listProperty))) := by
  refine ⟨ofAddress mapped address, parse_render writable apart, fun item => ?_⟩
  have found : ∀ tree, (ofAddress mapped address).evaluate item = .ok tree ↔ item.LeadsTo mapped address tree :=
    fun tree => evaluate_ofAddress_iff writable.nonempty writable.start
  refine ⟨found, fun nowhere => ?_⟩
  obtain ⟨name, later, starts⟩ := ofAddress_starts writable.nonempty writable.start
  obtain ⟨tree, evaluated, -⟩ | ⟨missing, -⟩ := evaluate_cases starts item
  · exact absurd ((found tree).1 evaluated) (nowhere tree)
  · exact missing

end PropertyPath

namespace Trial

/-- The list property comes first and again later, and an index goes between. -/
def heat : Address := [.mapped "heat", .index 1, .mapped "heat", .name "unit"]

def colored : Attribute := .object [("name", .value (.text "color")), ("value", .value (.text "red"))]

def measured : Attribute := .object [("productAttributes", .object [("heat", .object [("value", .object [
  ("unit", .value (.text "SHU"))])])])]

def heated : Attribute := .object [("name", .value (.text "heat")), ("value", .list [.value (.text "hot"), measured])]

def mild : Attribute := .object [("name", .value (.text "heat")), ("value", .value (.text "mild"))]

def sauced : Item := { Item.new 7 with
  attributes := Table.ofList [("productAttributes", .list ([colored] ++ heated :: [mild]))] }

/-- An item with a list that is long enough for an index like the list property of `numeric`. -/
def sized : Item := { Item.new 7 with
  attributes := Table.ofList [("sizes", .list [.value (.text "S"), .value (.text "M"), .value (.text "L"),
    .value (.text "XL")])] }

end Trial

namespace PropertyPath

theorem evaluate_rendered_trial :
    Trial.heat.Writable MappedList.standard.listProperty ∧ Trial.heat.Apart MappedList.standard.listProperty ∧
      ∃ path, parse .standard "productAttributes.heat.1.productAttributes.heat.unit" = .ok path ∧
        path.evaluate Trial.sauced = .ok (.value (.text "SHU")) ∧
        path.evaluate Trial.sized =
          .error (.missingProperty "productAttributes.heat.1.productAttributes.heat.unit") := by
  have writable : Trial.heat.Writable MappedList.standard.listProperty := by decide
  have numeral : Numeral.ofNat (UInt64.toNat 1) = "1" := by
    rw [Numeral.ofNat, Numeral.digits]
    decide
  have apart : Trial.heat.Apart MappedList.standard.listProperty := by
    intro position member
    have only : position = 1 := List.mem_singleton.1 member
    rw [only, numeral]
    decide
  obtain ⟨path, read, finds⟩ := evaluate_rendered .standard Trial.heat writable apart
  have text : Trial.heat.render MappedList.standard.listProperty =
      "productAttributes.heat.1.productAttributes.heat.unit" := by
    unfold Address.render Trial.heat
    simp only [List.flatMap_cons, Step.fragments, numeral]
    decide
  rw [text] at read finds
  refine ⟨writable, apart, path, read, ((finds Trial.sauced).1 _).2 ?_, (finds Trial.sized).2 ?_⟩
  · have chosen : Attribute.Picks .standard "heat" (.list ([Trial.colored] ++ Trial.heated :: [Trial.mild]))
        (.list [.value (.text "hot"), Trial.measured]) := by
      refine .element rfl (fun other member => ?_) rfl
      intro keyed
      have held : Trial.colored.member? "name" = some (.value (.text "color")) := rfl
      rw [List.mem_singleton.1 member] at keyed
      exact absurd (held.symm.trans keyed) (by simp)
    exact ⟨_, _, _, rfl, .mapped (.held (by decide) rfl) chosen,
      .step (.index rfl) (.step (.mapped rfl (.entry rfl rfl)) (.step (.name rfl) (.here _)))⟩
  · rintro tree ⟨first, rest, held, same, begins, -⟩
    cases same
    cases begins with
    | mapped shown _ =>
      have missing : property? Trial.sized MappedList.standard.listProperty = none := rfl
      rw [← property?_eq_some_iff, missing] at shown
      cases shown

/-- An index that is written like the list property is read as the list property, whatever stands there. -/
theorem index_hidden_by_list_property :
    Address.Writable "3" [.name "sizes", .index 3] ∧
      Trial.sized.LeadsTo Trial.numeric [.name "sizes", .index 3] (.value (.text "XL")) ∧
      parse Trial.numeric (Address.render "3" [.name "sizes", .index 3]) =
        .error (.invalidPath "sizes.3" keyMissing) := by
  have numeral : Numeral.ofNat (UInt64.toNat 3) = "3" := by
    rw [Numeral.ofNat, Numeral.digits]
    decide
  have text : Address.render "3" [.name "sizes", .index 3] = "sizes.3" := by
    unfold Address.render
    simp only [List.flatMap_cons, Step.fragments, numeral]
    decide
  have parts : fragments "sizes.3" = ["sizes", "3"] := by decide
  refine ⟨by decide, ?_, ?_⟩
  · exact ⟨_, _, _, rfl, .name (.held (by decide) rfl), .step (.index rfl) (.here _)⟩
  · rw [text]
    apply parse_of_refused
    rw [parts, readSegments_name (by decide) (by decide) (by decide)]
    rfl

end PropertyPath
end CatalogIndex
