import CatalogIndex.Proofs.Contributions
/-!
Which generated field names are the same. A name is the abbreviation of its descriptor and, behind it, its locale and
the suffix of its type. What stands behind the abbreviation tells the suffix, which has no underscore, and so the type
and the locale; only a text, which has no suffix, may have a locale that is spelled like the end of a typed name.
-/
namespace CatalogIndex

namespace Cut

variable {mark : Char}

theorem everywhere_append_mark (mark : Char) (front back : List Char) :
    everywhere mark (front ++ mark :: back) = everywhere mark front ++ everywhere mark back := by
  induction front with
  | nil => simp [everywhere]
  | cons c rest ih =>
    by_cases hit : c = mark
    · simp [everywhere, hit, ih]
    · obtain ⟨first, others, shape⟩ := List.exists_cons_of_ne_nil (everywhere_ne_nil mark rest)
      simp [everywhere, hit, ih, shape]

def lastPart (mark : Char) (text : String) : String :=
  String.ofList ((everywhere mark text.toList).getLast (everywhere_ne_nil mark text.toList))

theorem lastPart_of_not_mem {text : String} (free : mark ∉ text.toList) : lastPart mark text = text := by
  unfold lastPart
  simp only [everywhere_of_not_mem mark free, List.getLast_singleton, String.ofList_toList]

theorem lastPart_append (mark : Char) (front back : String) :
    lastPart mark (front ++ String.singleton mark ++ back) = lastPart mark back := by
  have chars : (front ++ String.singleton mark ++ back).toList = front.toList ++ mark :: back.toList := by simp
  unfold lastPart
  simp only [chars, everywhere_append_mark]
  rw [List.getLast_append_of_ne_nil]

end Cut

namespace FieldType

variable {fieldType : FieldType}

theorem suffix_ne_empty (typed : fieldType ≠ .text) : fieldType.suffix ≠ "" := fun bare =>
  typed (suffix_injective bare)

theorem not_mem_suffix (fieldType : FieldType) : '_' ∉ fieldType.suffix.toList := by
  cases fieldType <;> decide

end FieldType

namespace Naming

/-! ### Names in two parts -/

/-- Two parts of a name with an underscore between them, or one of them alone if the other is empty. -/
def beside (first second : String) : String :=
  if first = "" then second else if second = "" then first else first ++ "_" ++ second

variable {first second other : String}

theorem empty_beside (second : String) : beside "" second = second := if_pos rfl

theorem beside_empty (first : String) : beside first "" = first := by
  unfold beside
  split <;> simp_all

theorem beside_of_ne (someFirst : first ≠ "") (someSecond : second ≠ "") :
    beside first second = first ++ "_" ++ second := by
  unfold beside
  rw [if_neg someFirst, if_neg someSecond]

theorem ne_append (first second : String) : first ++ "_" ++ second ≠ first ∧ first ++ "_" ++ second ≠ second := by
  have length : (first ++ "_" ++ second).length = first.length + 1 + second.length := by
    rw [String.length_append, String.length_append]
    rfl
  constructor <;> intro same <;> rw [same] at length <;> omega

theorem beside_right_inj : beside first second = beside first other ↔ second = other := by
  refine ⟨fun same => ?_, fun same => same ▸ rfl⟩
  by_cases noFirst : first = ""
  · rwa [noFirst, empty_beside, empty_beside] at same
  by_cases noSecond : second = "" <;> by_cases noOther : other = ""
  · rw [noSecond, noOther]
  · rw [noSecond, beside_empty, beside_of_ne noFirst noOther] at same
    exact absurd same.symm (ne_append _ _).1
  · rw [noOther, beside_empty, beside_of_ne noFirst noSecond] at same
    exact absurd same (ne_append _ _).1
  · rw [beside_of_ne noFirst noSecond, beside_of_ne noFirst noOther] at same
    exact (String.append_right_inj _).1 same

theorem beside_left_inj : beside first second = beside other second ↔ first = other := by
  refine ⟨fun same => ?_, fun same => same ▸ rfl⟩
  by_cases noSecond : second = ""
  · rwa [noSecond, beside_empty, beside_empty] at same
  by_cases noFirst : first = "" <;> by_cases noOther : other = ""
  · rw [noFirst, noOther]
  · rw [noFirst, empty_beside, beside_of_ne noOther noSecond] at same
    exact absurd same.symm (ne_append _ _).2
  · rw [noOther, empty_beside, beside_of_ne noFirst noSecond] at same
    exact absurd same (ne_append _ _).2
  · rw [beside_of_ne noFirst noSecond, beside_of_ne noOther noSecond] at same
    exact (String.append_left_inj _).1 ((String.append_left_inj _).1 same)

theorem lastPart_beside (someSecond : second ≠ "") :
    Cut.lastPart '_' (beside first second) = Cut.lastPart '_' second := by
  by_cases noFirst : first = ""
  · rw [noFirst, empty_beside]
  · rw [beside_of_ne noFirst someSecond]
    exact Cut.lastPart_append '_' first second

/-! ### Names of property fields -/

def ending (fieldType : FieldType) (locale : String) : String := beside locale fieldType.suffix

theorem propertyField_eq (descriptor : Descriptor) (fieldType : FieldType) (locale : String) :
    propertyField descriptor fieldType locale = beside descriptor.abbreviation (ending fieldType locale) := by
  unfold propertyField ending beside
  by_cases noAbbreviation : descriptor.abbreviation = "" <;> by_cases noLocale : locale = "" <;>
    by_cases noSuffix : fieldType.suffix = "" <;> simp [*, String.append_assoc]

theorem ending_text (locale : String) : ending .text locale = locale := beside_empty locale

theorem lastPart_ending {fieldType : FieldType} (typed : fieldType ≠ .text) (locale : String) :
    Cut.lastPart '_' (ending fieldType locale) = fieldType.suffix :=
  calc
    Cut.lastPart '_' (ending fieldType locale) = Cut.lastPart '_' fieldType.suffix :=
      lastPart_beside (FieldType.suffix_ne_empty typed)
    _ = fieldType.suffix := Cut.lastPart_of_not_mem fieldType.not_mem_suffix

theorem ending_ne_empty {fieldType : FieldType} (typed : fieldType ≠ .text) (locale : String) :
    ending fieldType locale ≠ "" := by
  intro empty
  have suffix := lastPart_ending typed locale
  rw [empty, Cut.lastPart_of_not_mem List.not_mem_nil] at suffix
  exact FieldType.suffix_ne_empty typed suffix.symm

/-- What stands behind the abbreviation of a typed name tells its type and its locale. -/
theorem ending_inj_of_typed {left right : FieldType} {locale elsewhere : String} (leftTyped : left ≠ .text)
    (rightTyped : right ≠ .text) : ending left locale = ending right elsewhere ↔ left = right ∧ locale = elsewhere := by
  constructor
  · intro same
    have suffixes : left.suffix = right.suffix := by
      rw [← lastPart_ending leftTyped locale, ← lastPart_ending rightTyped elsewhere, same]
    obtain rfl := FieldType.suffix_injective suffixes
    exact ⟨rfl, beside_left_inj.1 same⟩
  · rintro ⟨rfl, rfl⟩
    rfl

/-- A text, under a locale that is spelled like the end of a typed name: like the locale and the suffix of the type with
an underscore between them, or like the suffix alone if the typed name has no locale. -/
structure Mimics (text typed : FieldType × String) : Prop where
  isText : text.1 = .text
  isTyped : typed.1 ≠ .text
  spelled : text.2 = if typed.2 = "" then typed.1.suffix else typed.2 ++ "_" ++ typed.1.suffix

theorem mimics_iff {text typed : FieldType × String} (isText : text.1 = .text) (isTyped : typed.1 ≠ .text) :
    Mimics text typed ↔ ending text.1 text.2 = ending typed.1 typed.2 := by
  have spelled : ending typed.1 typed.2 =
      if typed.2 = "" then typed.1.suffix else typed.2 ++ "_" ++ typed.1.suffix := by
    unfold ending beside
    rw [if_neg (FieldType.suffix_ne_empty isTyped)]
  rw [isText, ending_text, spelled]
  exact ⟨fun mimics => mimics.spelled, fun same => ⟨isText, isTyped, same⟩⟩

theorem ending_eq_iff (left right : FieldType × String) :
    ending left.1 left.2 = ending right.1 right.2 ↔ left = right ∨ Mimics left right ∨ Mimics right left := by
  -- Two texts differ as their locales do, two typed names as types and locales do, so only a mixed pair may collide.
  by_cases leftText : left.1 = .text <;> by_cases rightText : right.1 = .text
  · have noMimic : ¬ Mimics left right ∧ ¬ Mimics right left :=
      ⟨fun mimics => mimics.isTyped rightText, fun mimics => mimics.isTyped leftText⟩
    rw [leftText, rightText, ending_text, ending_text, Prod.ext_iff, leftText, rightText]
    simp [noMimic]
  · have differ : left ≠ right := fun same => rightText (same ▸ leftText)
    have noMimic : ¬ Mimics right left := fun mimics => mimics.isTyped leftText
    rw [← mimics_iff leftText rightText]
    simp [differ, noMimic]
  · have differ : left ≠ right := fun same => leftText (same ▸ rightText)
    have noMimic : ¬ Mimics left right := fun mimics => mimics.isTyped rightText
    rw [eq_comm, ← mimics_iff rightText leftText]
    simp [differ, noMimic]
  · have noMimic : ¬ Mimics left right ∧ ¬ Mimics right left :=
      ⟨fun mimics => leftText mimics.isText, fun mimics => rightText mimics.isText⟩
    rw [ending_inj_of_typed leftText rightText, ← Prod.ext_iff]
    simp [noMimic]

theorem propertyField_eq_iff (descriptor : Descriptor) (left right : FieldType × String) :
    propertyField descriptor left.1 left.2 = propertyField descriptor right.1 right.2 ↔
      left = right ∨ Mimics left right ∨ Mimics right left := by
  rw [propertyField_eq, propertyField_eq, beside_right_inj]
  exact ending_eq_iff left right

theorem propertyField_locale_inj {descriptor : Descriptor} {fieldType : FieldType} {locale elsewhere : String} :
    propertyField descriptor fieldType locale = propertyField descriptor fieldType elsewhere ↔ locale = elsewhere := by
  rw [propertyField_eq, propertyField_eq, beside_right_inj]
  exact beside_left_inj

theorem propertyField_type_inj {descriptor : Descriptor} {left right : FieldType} {locale : String} :
    propertyField descriptor left locale = propertyField descriptor right locale ↔ left = right := by
  rw [propertyField_eq, propertyField_eq, beside_right_inj]
  unfold ending
  rw [beside_right_inj]
  exact ⟨FieldType.suffix_injective, fun same => same ▸ rfl⟩

theorem lastPart_propertyField {descriptor : Descriptor} {fieldType : FieldType} {locale : String}
    (nonempty : ending fieldType locale ≠ "") :
    Cut.lastPart '_' (propertyField descriptor fieldType locale) = Cut.lastPart '_' (ending fieldType locale) := by
  rw [propertyField_eq]
  exact lastPart_beside nonempty

/-- A locale whose texts share a field with a typed value ends like the type. If it is not empty, this is so for the
typed values of every descriptor. -/
theorem lastPart_of_shared {descriptor other : Descriptor} {fieldType : FieldType} {code locale : String}
    (typed : fieldType ≠ .text) (related : code ≠ "" ∨ other.abbreviation = descriptor.abbreviation)
    (shared : propertyField descriptor .text code = propertyField other fieldType locale) :
    Cut.lastPart '_' code = fieldType.suffix := by
  rcases related with nonempty | akin
  · have someText : ending .text code ≠ "" := by rwa [ending_text]
    calc
      Cut.lastPart '_' code = Cut.lastPart '_' (ending .text code) := by rw [ending_text]
      _ = Cut.lastPart '_' (propertyField descriptor .text code) := (lastPart_propertyField someText).symm
      _ = Cut.lastPart '_' (propertyField other fieldType locale) := by rw [shared]
      _ = Cut.lastPart '_' (ending fieldType locale) := lastPart_propertyField (ending_ne_empty typed locale)
      _ = fieldType.suffix := lastPart_ending typed locale
  · rw [propertyField_eq, propertyField_eq, akin, beside_right_inj, ending_text] at shared
    rw [shared]
    exact lastPart_ending typed locale

end Naming

/-! ### What one type is resolved to -/

theorem Document.under_of_nodup {additions : List (String × List Value)} {addition : String × List Value}
    (distinct : (additions.map (·.1)).Nodup) (member : addition ∈ additions) :
    under addition.1 additions = [addition.2] := by
  induction additions with
  | nil => cases member
  | cons first rest ih =>
    obtain ⟨fresh, distinct⟩ : first.1 ∉ rest.map (·.1) ∧ (rest.map (·.1)).Nodup := List.nodup_cons.1 distinct
    have hit (name : String) (list : List Value) : under name [(name, list)] = [list] := by simp [under]
    rw [under_cons]
    rcases List.mem_cons.1 member with rfl | later
    · have nothing : under addition.1 rest = [] := Decidable.not_not.1 fun some => fresh (under_ne_nil.1 some)
      rw [nothing, List.append_nil]
      exact hit _ _
    · have differ : first.1 ≠ addition.1 := by
        intro same
        have listed : addition.1 ∈ rest.map (·.1) := List.mem_map_of_mem later
        rw [same] at fresh
        exact fresh listed
      rw [ih distinct later]
      simp [under, differ]

variable (descriptor : Descriptor) (fieldType : FieldType) (values : PropertyValues)

theorem Descriptor.nodup_named : ((descriptor.named fieldType values).map (·.1)).Nodup := by
  unfold named List.Nodup
  rw [List.map_map, List.pairwise_map]
  apply values.ascending.imp
  intro left right less same
  have keys : left.1 = right.1 := Naming.propertyField_locale_inj.1 same
  rw [keys] at less
  exact String.lt_irrefl _ less

theorem Builder.Draft.gains_addSearchable (draft : Draft) {entry : String × List Value}
    (member : entry ∈ values.entries) :
    Document.Gains draft.document (Naming.propertyField descriptor fieldType entry.1) [entry.2]
      (draft.addSearchable descriptor fieldType values).document := by
  have named : (Naming.propertyField descriptor fieldType entry.1, entry.2) ∈ descriptor.named fieldType values :=
    List.mem_map_of_mem member
  have alone := Document.under_of_nodup (descriptor.nodup_named fieldType values) named
  rw [addSearchable_eq, ← alone]
  exact draft.gains_take _ _

namespace Naming

/-- Different fields of a descriptor have the same name exactly if one of them is a text that mimics the other, which is
typed. So what one type is resolved to goes to a field for each locale, types differ under every locale, and a text in a
locale that does not end like a type shares its field with no typed value of its descriptor, nor of another descriptor
unless the locale is empty. -/
theorem collide_iff_mimics (descriptor : Descriptor) :
    (∀ left right : FieldType × String, left ≠ right →
      (propertyField descriptor left.1 left.2 = propertyField descriptor right.1 right.2 ↔
        Mimics left right ∨ Mimics right left)) ∧
      (∀ (fieldType : FieldType) (values : PropertyValues),
        ((descriptor.named fieldType values).map (·.1)).Nodup ∧
        ∀ (draft : Builder.Draft), ∀ entry ∈ values.entries,
          Document.Gains draft.document (propertyField descriptor fieldType entry.1) [entry.2]
            (draft.addSearchable descriptor fieldType values).document) ∧
      (∀ (left right : FieldType) (locale : String), left ≠ right →
        propertyField descriptor left locale ≠ propertyField descriptor right locale) ∧
      ∀ code : String, (∀ fieldType : FieldType, fieldType ≠ .text → Cut.lastPart '_' code ≠ fieldType.suffix) →
        ∀ (other : Descriptor) (fieldType : FieldType) (locale : String), fieldType ≠ .text →
          code ≠ "" ∨ other.abbreviation = descriptor.abbreviation →
          propertyField descriptor .text code ≠ propertyField other fieldType locale := by
  refine ⟨fun left right differ => ?_, fun fieldType values => ⟨?_, fun draft entry member => ?_⟩,
    fun left right locale differ => ?_, fun code unlike other fieldType locale typed related => ?_⟩
  · rw [propertyField_eq_iff, or_iff_right differ]
  · exact descriptor.nodup_named fieldType values
  · exact draft.gains_addSearchable descriptor fieldType values member
  · exact fun same => differ (propertyField_type_inj.1 same)
  · exact fun shared => unlike fieldType typed (lastPart_of_shared typed related shared)

theorem collide_iff_mimics_trial :
    propertyField Trial.color .text "en_s" = propertyField Trial.color .string "en" ∧
      propertyField Trial.color .strings "" = propertyField Trial.color .text "ss" ∧
      propertyField Trial.color .text "en" ≠ propertyField Trial.color .string "en" ∧
      (∀ fieldType : FieldType, fieldType ≠ .text → Cut.lastPart '_' "es_ES" ≠ fieldType.suffix) ∧
      propertyField Trial.color .text "es_ES" ≠ propertyField Trial.weight .decimal "es" := by
  obtain ⟨collide, -, typesDiffer, codes⟩ := collide_iff_mimics Trial.color
  have unlike : ∀ fieldType : FieldType, fieldType ≠ .text → Cut.lastPart '_' "es_ES" ≠ fieldType.suffix := by
    intro fieldType _
    cases fieldType <;> decide
  refine ⟨?_, ?_, typesDiffer _ _ _ (by decide), unlike, codes _ unlike _ _ _ (by decide) (.inl (by decide))⟩
  · exact (collide (.text, "en_s") (.string, "en") (by decide)).2 (.inl ⟨rfl, by decide, by decide⟩)
  · exact (collide (.strings, "") (.text, "ss") (by decide)).2 (.inr ⟨rfl, by decide, by decide⟩)

end Naming
end CatalogIndex
