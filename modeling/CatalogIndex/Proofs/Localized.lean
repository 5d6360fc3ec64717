import CatalogIndex.Proofs.Contributions
/-!
Localized fields. Where translations are the only handler, building a document asks nothing, and what a property has is
told from the set of requested locale codes: a property with an entry for translations has its texts in those codes,
every other property has what its path shows, whatever the locales.
-/
namespace CatalogIndex

namespace Table

variable {α β : Type}

theorem find?_foldl_insert (value : String → Option α) (keys : List String) (table : Table α) (key : String) :
    ((keys.filterMap fun key => (value key).map fun found => (key, found)).foldl
        (fun table pair => table.insert pair.1 pair.2) table).find? key =
      if key ∈ keys then (value key).or (table.find? key) else table.find? key := by
  induction keys generalizing table with
  | nil => rfl
  | cons first rest ih =>
    cases found : value first with
    | none =>
      rw [List.filterMap_cons_none (by rw [found]; rfl), ih]
      by_cases hit : key = first
      · simp [hit, found]
      · simp [hit]
    | some held =>
      rw [List.filterMap_cons_some (by rw [found]; rfl), List.foldl_cons, ih, find?_insert]
      by_cases hit : key = first
      · simp [hit, found]
      · simp [hit]

theorem find?_ofList_filterMap (value : String → Option α) (keys : List String) (key : String) :
    (ofList (keys.filterMap fun key => (value key).map fun found => (key, found))).find? key =
      if key ∈ keys then value key else none := by
  unfold ofList
  rw [find?_foldl_insert, find?_empty, Option.or_none]

def restrict (table : Table α) (keys : List String) (change : α → β) : Table β where
  entries := (table.entries.filter fun entry => keys.contains entry.1).map fun entry => (entry.1, change entry.2)
  ascending := (table.ascending.filter _).map _ fun _ _ less => less

theorem find?_restrict (table : Table α) (keys : List String) (change : α → β) (key : String) :
    (table.restrict keys change).find? key = if key ∈ keys then (table.find? key).map change else none := by
  unfold find? restrict
  dsimp only
  generalize table.entries = entries
  induction entries with
  | nil => simp [seek]
  | cons entry rest ih =>
    obtain ⟨name, value⟩ := entry
    rw [List.filter_cons]
    by_cases asked : name ∈ keys
    · rw [if_pos (List.contains_iff_mem.2 asked), List.map_cons]
      unfold seek
      by_cases hit : key = name
      · simp [hit, asked]
      · rw [if_neg hit, if_neg hit, ih]
    · rw [if_neg fun known => asked (List.contains_iff_mem.1 known), ih]
      by_cases hit : key = name
      · simp [hit, asked]
      · simp [seek, hit]

/-- Neither the order of the keys counts nor how often they are named. -/
theorem restrict_congr (table : Table α) {keys others : List String} (same : ∀ key, key ∈ keys ↔ key ∈ others)
    (change : α → β) : table.restrict keys change = table.restrict others change := by
  refine ext_find? fun key => ?_
  rw [find?_restrict, find?_restrict]
  simp only [same]

end Table

/-- The codes of locales, which is all of them that translations look at. -/
def Locale.codes (locales : List Locale) : List String := locales.map (·.code)

theorem Chain.translated?_eq (resolution : Resolution) :
    translated? resolution =
      (resolution.item.translations.find? resolution.descriptor.propertyName).map fun texts =>
        texts.restrict (Locale.codes resolution.locales) fun text => [.text text] := by
  unfold translated?
  congr 1
  funext texts
  refine Table.ext_find? fun code => ?_
  have found := Table.find?_ofList_filterMap (fun code => (texts.find? code).map fun text => [Value.text text])
    (Locale.codes resolution.locales) code
  rw [Locale.codes, List.filterMap_map] at found
  simp only [Function.comp_def, Option.map_map] at found
  rw [Table.find?_restrict, Locale.codes, ← found]

def Quiet {α : Type} (consultation : Consultation α) : Prop := ∃ answer, consultation = .done answer

namespace Quiet

variable {α β : Type}

theorem bind {consultation : Consultation α} {next : α → Consultation β} (quiet : Quiet consultation)
    (later : ∀ answer, Quiet (next answer)) : Quiet (consultation.bind next) := by
  obtain ⟨answer, rfl⟩ := quiet
  exact later answer

theorem eq_done {consultation : Consultation α} (quiet : Quiet consultation) (resolving : Resolving) :
    consultation = .done (consultation.answer resolving.reply) := by
  obtain ⟨answer, rfl⟩ := quiet
  rfl

end Quiet

namespace Descriptor

variable {resolve other : Descriptor → FieldType → Except ResolveError PropertyValues} {descriptor : Descriptor}

theorem parts_congr (same : resolve descriptor = other descriptor) :
    descriptor.searchablePart resolve = descriptor.searchablePart other ∧
      descriptor.facetPart resolve = descriptor.facetPart other := by
  have types (types : List FieldType) :
      resolvedTypes resolve descriptor types = resolvedTypes other descriptor types := by
    induction types with
    | nil => rfl
    | cons fieldType rest ih =>
      unfold resolvedTypes
      rw [same, ih]
  unfold searchablePart facetPart
  rw [types, same]
  exact ⟨rfl, rfl⟩

theorem parts_of_resolved {values : PropertyValues}
    (resolved : ∀ fieldType, resolve descriptor fieldType = .ok values) :
    descriptor.searchablePart resolve = descriptor.sought.flatMap (descriptor.named · values) ∧
      descriptor.facetPart resolve = descriptor.facetType.toList.flatMap (descriptor.named · values) := by
  have types (types : List FieldType) : resolvedTypes resolve descriptor types = types.map (·, values) := by
    induction types with
    | nil => rfl
    | cons fieldType rest ih =>
      unfold resolvedTypes
      rw [resolved, ih]
      rfl
  have complete : (descriptor.sought.all fun fieldType => (resolve descriptor fieldType).isOk) = true :=
    List.all_eq_true.2 fun fieldType _ => by rw [resolved]; rfl
  constructor
  · unfold searchablePart
    rw [types, List.flatMap_map]
  · unfold facetPart
    rw [complete]
    cases descriptor.facetType with
    | none => rfl
    | some fieldType =>
      dsimp only
      rw [resolved]
      exact (List.append_nil _).symm

/-- The translations of a property in requested codes, each under the name of its field: one for every code that has a
translation, since a table has an entry for a key at most once. -/
def spoken (descriptor : Descriptor) (texts : Table String) (codes : List String) (fieldType : FieldType) :
    List (String × List Value) :=
  (texts.entries.filter fun entry => codes.contains entry.1).map fun entry =>
    (Naming.propertyField descriptor fieldType entry.1, [.text entry.2])

theorem named_restrict (texts : Table String) (codes : List String) (fieldType : FieldType) :
    descriptor.named fieldType (texts.restrict codes fun text => [.text text]) =
      descriptor.spoken texts codes fieldType := by
  unfold named Table.restrict spoken
  rw [List.map_map]
  rfl

end Descriptor

namespace Builder

/-- What a type of a descriptor has for an item in requested codes: the translations of its property or, if the item
has no entry for the property, what its path shows. -/
def offers (builder : Builder) (item : Item) (codes : List String) (descriptor : Descriptor) (fieldType : FieldType) :
    Except ResolveError PropertyValues :=
  match item.translations.find? descriptor.propertyName with
  | some texts => .ok (texts.restrict codes fun text => [.text text])
  | none => builder.valuesAtPath ⟨item, descriptor, fieldType, [], .empty⟩

variable {builder : Builder} {item : Item} {locales : List Locale} {request : RequestContext}

theorem offers_congr {codes others : List String} (same : ∀ code, code ∈ codes ↔ code ∈ others) :
    builder.offers item codes = builder.offers item others := by
  funext descriptor fieldType
  unfold offers
  cases item.translations.find? descriptor.propertyName with
  | none => rfl
  | some texts => exact congrArg Except.ok (texts.restrict_congr same _)

theorem resolve_of_translating (translating : builder.chain = [.translation]) (resolution : Resolution) :
    builder.resolve resolution = .done (builder.offers resolution.item (Locale.codes resolution.locales)
      resolution.descriptor resolution.fieldType) := by
  unfold Builder.resolve offers
  rw [translating]
  unfold Chain.resolve
  rw [Chain.translated?_eq]
  cases resolution.item.translations.find? resolution.descriptor.propertyName <;> rfl

theorem finds_of_translating (translating : builder.chain = [.translation]) (resolving : Resolving) :
    builder.finds resolving item locales request = builder.offers item (Locale.codes locales) := by
  funext descriptor fieldType
  unfold finds
  rw [resolve_of_translating translating]
  rfl

theorem quiet_attachDescriptors (translating : builder.chain = [.translation]) (descriptors : List Descriptor)
    (draft : Draft) : Quiet (attachDescriptors builder item locales request descriptors draft) :=
  binds_attachDescriptors ⟨fun _ => ⟨_, rfl⟩, .bind⟩ (fun _ _ => ⟨_, resolve_of_translating translating _⟩) descriptors
    draft

def localized (builder : Builder) (item : Item) (descriptors : List Descriptor) (codes : List String) : Document :=
  (descriptors.foldl (Draft.describe (builder.offers item codes))
    ⟨(builder.identity item).addAll (categoryFields item), []⟩).document

theorem build_of_translating (translating : builder.chain = [.translation]) (descriptors : List Descriptor) :
    builder.build item descriptors locales request =
      .done (.ok (builder.localized item descriptors (Locale.codes locales))) := by
  have told (draft : Draft) : attachDescriptors builder item locales request descriptors draft =
      .done (descriptors.foldl (Draft.describe (builder.offers item (Locale.codes locales))) draft) := by
    rw [(quiet_attachDescriptors translating descriptors draft).eq_done fun _ _ => .ok none, answer_attachDescriptors,
      finds_of_translating translating]
  unfold build
  rw [translating]
  dsimp only [Chain.attach, Dialogue.bind]
  rw [told]
  rfl

theorem gains_localized (translating : builder.chain = [.translation]) (descriptors : List Descriptor) (name : String) :
    Document.Gains (builder.identity item) name
      (Document.under name (categoryFields item) ++
        Descriptor.contributions (builder.offers item (Locale.codes locales)) name descriptors)
      (builder.localized item descriptors (Locale.codes locales)) := by
  have resolving : Resolving := fun _ _ => .ok none
  have categories := Document.gains_addAll (builder.identity item) name (categoryFields item)
  have unsearched : List.contains [] name = Descriptor.isSearched
      (builder.finds resolving item locales .empty) name [] := rfl
  have gains := gains_attachDescriptors name [] descriptors
    ⟨(builder.identity item).addAll (categoryFields item), []⟩ unsearched
  rw [answer_attachDescriptors, finds_of_translating translating] at gains
  exact categories.append gains

/-- Where translations are the only handler, every item has a document, which depends on the set of requested codes and
on nothing else about the locales. Each field of it holds the basic values, those of the categories and what the
descriptors contribute. A property with an entry for translations contributes its texts in the requested codes and
nothing else. Any other property has the same values whatever the locales; only the names that searchable contributions
have used, and that its facet leaves out, may differ. -/
theorem localized_by_codes (translating : builder.chain = [.translation]) (item : Item) (descriptors : List Descriptor)
    (locales : List Locale) (request : RequestContext) :
    ∃ document, builder.build item descriptors locales request = .done (.ok document) ∧
      (∀ others : List Locale, (∀ code, code ∈ Locale.codes others ↔ code ∈ Locale.codes locales) →
        builder.build item descriptors others request = .done (.ok document)) ∧
      (∀ descriptor fieldType, builder.resolve ⟨item, descriptor, fieldType, locales, request⟩ =
        .done (builder.offers item (Locale.codes locales) descriptor fieldType)) ∧
      (∀ name, Document.Gains (builder.identity item) name
        (Document.under name (categoryFields item) ++
          Descriptor.contributions (builder.offers item (Locale.codes locales)) name descriptors) document) ∧
      (∀ (descriptor : Descriptor) texts, item.translations.find? descriptor.propertyName = some texts →
        descriptor.searchablePart (builder.offers item (Locale.codes locales)) =
          descriptor.sought.flatMap (descriptor.spoken texts (Locale.codes locales)) ∧
        descriptor.facetPart (builder.offers item (Locale.codes locales)) =
          descriptor.facetType.toList.flatMap (descriptor.spoken texts (Locale.codes locales))) ∧
      ∀ descriptor : Descriptor, item.translations.find? descriptor.propertyName = none → ∀ others : List Locale,
        builder.offers item (Locale.codes others) descriptor = builder.offers item (Locale.codes locales) descriptor ∧
        descriptor.searchablePart (builder.offers item (Locale.codes others)) =
          descriptor.searchablePart (builder.offers item (Locale.codes locales)) ∧
        descriptor.facetPart (builder.offers item (Locale.codes others)) =
          descriptor.facetPart (builder.offers item (Locale.codes locales)) := by
  refine ⟨_, build_of_translating translating descriptors, fun others same => ?_,
    fun _ _ => resolve_of_translating translating _, gains_localized translating descriptors,
    fun descriptor texts entry => ?_, fun descriptor bare others => ?_⟩
  · rw [build_of_translating translating, localized, offers_congr same]
    rfl
  · have resolved (fieldType : FieldType) : builder.offers item (Locale.codes locales) descriptor fieldType =
        .ok (texts.restrict (Locale.codes locales) fun text => [.text text]) := by
      unfold offers
      rw [entry]
    obtain ⟨searchable, facet⟩ := Descriptor.parts_of_resolved resolved
    rw [searchable, facet]
    simp only [Descriptor.named_restrict, and_self]
  · have same : builder.offers item (Locale.codes others) descriptor =
        builder.offers item (Locale.codes locales) descriptor := by
      funext fieldType
      unfold offers
      rw [bare]
    exact ⟨same, Descriptor.parts_congr same⟩

end Builder

namespace Trial

def translating : Builder := ⟨"shop", [.translation], .standard⟩

def sunny : Item :=
  { Item.new 1 with
    attributes := Table.ofList [("title", .value (.text "Helios")), ("tone", .value (.text "dark"))]
    translations := Table.ofList [("title", Table.ofList [("en", "Sun"), ("s", "Sonne")])] }

/-- A title whose text in a locale named as a type goes to the field of the tone. -/
def title : Descriptor := ⟨"title", "x", true, [.text], some .string⟩

def shade : Descriptor := ⟨"tone", "x", false, [], some .string⟩

end Trial

namespace Builder

theorem localized_by_codes_trial :
    ∃ document, Trial.translating.build Trial.sunny [Trial.title, Trial.shade] [⟨"en", none, true⟩, ⟨"fr", none, false⟩]
        .empty = .done (.ok document) ∧
      Trial.translating.build Trial.sunny [Trial.title, Trial.shade]
        [⟨"fr", some "French", true⟩, ⟨"en", none, false⟩, ⟨"fr", none, false⟩] .empty = .done (.ok document) ∧
      document.values "x_en" = [.text "Sun"] ∧ document.values "x_en_s" = [.text "Sun"] ∧
      document.values "x" = [] ∧ document.values "x_s" = [.text "dark"] := by
  have translating : Trial.translating.chain = [.translation] := rfl
  obtain ⟨document, built, reordered, -, gains, -⟩ := localized_by_codes translating Trial.sunny
    [Trial.title, Trial.shade] [⟨"en", none, true⟩, ⟨"fr", none, false⟩] .empty
  refine ⟨document, built, reordered _ (by grind [Locale.codes]), (gains "x_en").values.trans ?_,
    (gains "x_en_s").values.trans ?_, (gains "x").values.trans ?_, (gains "x_s").values.trans ?_⟩
  · decide
  · decide
  · decide
  · decide

/-- A property without translations loses its facet in a locale whose texts go to the same field. -/
theorem facet_left_out_in_a_locale :
    Trial.sunny.translations.find? Trial.shade.propertyName = none ∧
    ∃ silent spoken, Trial.translating.build Trial.sunny [Trial.title, Trial.shade] [] .empty = .done (.ok silent) ∧
      silent.values "x_s" = [.text "dark"] ∧
      Trial.translating.build Trial.sunny [Trial.title, Trial.shade] [⟨"s", none, true⟩] .empty = .done (.ok spoken) ∧
      spoken.values "x_s" = [.text "Sonne"] ∧
      Trial.translating.build Trial.sunny [Trial.title] [⟨"s", none, true⟩] .empty = .done (.ok spoken) := by
  refine ⟨by decide, _, _, build_of_translating rfl _, ?_, build_of_translating rfl _, ?_, build_of_translating rfl _⟩
  · decide
  · decide

end Builder
end CatalogIndex
