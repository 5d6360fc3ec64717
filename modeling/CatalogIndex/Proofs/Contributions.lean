import CatalogIndex.Index.Builder
/-!
What the fields of a built document hold. Descriptors contribute to a field in turn, and what each of them contributes
is told from what its types resolve to: the values of its searchable types up to the first that cannot be resolved,
and then those of its facet, unless a searchable contribution has come to the field before.
-/
namespace CatalogIndex

namespace Document

def under (name : String) (additions : List (String × List Value)) : List (List Value) :=
  (additions.filter fun addition => addition.1 == name).map (·.2)

/-- A document that has gained lists of values in a field. An empty list makes the field present all the same. -/
structure Gains (before : Document) (name : String) (lists : List (List Value)) (after : Document) : Prop where
  values : after.values name = before.values name ++ lists.flatten
  contains : after.contains name = true ↔ before.contains name = true ∨ lists ≠ []

variable {before middle after : Document} {name : String} {first second : List (List Value)}

theorem Gains.append (gains : Gains before name first middle) (more : Gains middle name second after) :
    Gains before name (first ++ second) after where
  values := by rw [more.values, gains.values, List.flatten_append, List.append_assoc]
  contains := by
    rw [more.contains, gains.contains, or_assoc]
    cases first <;> simp

theorem gains_nil (document : Document) (name : String) : Gains document name [] document :=
  ⟨by simp, by simp⟩

theorem gains_addValues (document : Document) (name other : String) (values : List Value) :
    Gains document name (under name [(other, values)]) (document.addValues other values) := by
  by_cases hit : name = other
  · have listed : under name [(other, values)] = [values] := by simp [under, hit]
    rw [listed]
    constructor
    · rw [values_addValues, if_pos hit, List.flatten_singleton]
    · simp [contains_addValues, hit]
  · have unlisted : under name [(other, values)] = [] := by simp [under, Ne.symm hit]
    rw [unlisted]
    constructor
    · rw [values_addValues, if_neg hit, List.flatten_nil, List.append_nil]
    · simp [contains_addValues, hit]

theorem under_cons (name : String) (addition : String × List Value) (rest : List (String × List Value)) :
    under name (addition :: rest) = under name [addition] ++ under name rest := by
  unfold under
  rw [← List.map_append, ← List.filter_append]
  rfl

theorem gains_addAll (document : Document) (name : String) (additions : List (String × List Value)) :
    Gains document name (under name additions) (document.addAll additions) := by
  induction additions generalizing document with
  | nil => exact ⟨by simp [under, addAll], by simp [under, addAll]⟩
  | cons addition rest ih =>
    rw [under_cons]
    exact (gains_addValues document name addition.1 addition.2).append (ih _)

theorem addAll_append (document : Document) (first second : List (String × List Value)) :
    document.addAll (first ++ second) = (document.addAll first).addAll second := List.foldl_append

theorem under_ne_nil {additions : List (String × List Value)} :
    under name additions ≠ [] ↔ name ∈ additions.map (·.1) := by
  unfold under
  simp [List.filter_eq_nil_iff]

end Document

/-! ### Handlers that resolve by a function -/

abbrev Resolving := Nat → Resolution → Except ExtensionError (Option PropertyValues)

/-- Handlers that resolve by a function. Basic fields they may append as they like, by a state of their own. -/
def Resolving.Steady {σ : Type} (resolving : Resolving) (respond : Dialogue.Responder HandlerQuestion.Reply σ) : Prop :=
  ∀ key resolution state, (respond (.resolve key resolution) state).1 = resolving key resolution

def Resolving.reply (resolving : Resolving) : (question : HandlerQuestion) → question.Reply
  | .attach .. => Attachment.mk [] (.ok false)
  | .resolve key resolution => resolving key resolution

inductive Resolves {α : Type} : Consultation α → Prop where
  | done (answer : α) : Resolves (.done answer)
  | ask {key : Nat} {resolution : Resolution} {next : HandlerQuestion.Reply (.resolve key resolution) → Consultation α}
      (later : ∀ reply, Resolves (next reply)) : Resolves (.ask (.resolve key resolution) next)

namespace Resolves

variable {α β σ : Type}

theorem bind {consultation : Consultation α} {next : α → Consultation β} (resolves : Resolves consultation)
    (later : ∀ answer, Resolves (next answer)) : Resolves (consultation.bind next) := by
  induction resolves with
  | done answer => exact later answer
  | ask _ ih => exact .ask ih

theorem fst_exec {consultation : Consultation α} (resolves : Resolves consultation) {resolving : Resolving}
    {respond : Dialogue.Responder HandlerQuestion.Reply σ} (steady : resolving.Steady respond) (state : σ) :
    (consultation.exec respond state).1 = consultation.answer resolving.reply := by
  induction resolves generalizing state with
  | done answer => rfl
  | @ask key resolution next later ih =>
    change ((next (respond (.resolve key resolution) state).1).exec respond _).1 =
      (next (resolving key resolution)).answer resolving.reply
    rw [steady key resolution state]
    exact ih _ _

theorem resolve_chain (chain : Chain) (resolution : Resolution) : Resolves (chain.resolve resolution) := by
  induction chain with
  | nil => exact .done _
  | cons handler rest ih =>
    cases handler with
    | translation =>
      unfold Chain.resolve
      split
      · exact .done _
      · exact ih
    | outside name key =>
      refine .ask fun reply => ?_
      match reply with
      | .ok none => exact ih
      | .ok (some values) => exact .done _
      | .error error => exact .done _

variable {builder : Builder}

theorem resolve (resolution : Resolution) : Resolves (builder.resolve resolution) := by
  refine (resolve_chain _ _).bind fun reply => ?_
  match reply with
  | .ok (some values) => exact .done _
  | .ok none => exact .done _
  | .error error => exact .done _

theorem attachDescriptors (item : Item) (locales : List Locale) (request : RequestContext)
    (descriptors : List Descriptor) (draft : Builder.Draft) :
    Resolves (builder.attachDescriptors item locales request descriptors draft) :=
  Builder.binds_attachDescriptors ⟨.done, bind⟩ (fun _ _ => resolve _) descriptors draft

end Resolves

/-! ### What descriptors contribute -/

namespace Descriptor

def sought (descriptor : Descriptor) : List FieldType :=
  if descriptor.searchable then descriptor.searchableTypes else []

def named (descriptor : Descriptor) (fieldType : FieldType) (values : PropertyValues) : List (String × List Value) :=
  values.entries.map fun entry => (Naming.propertyField descriptor fieldType entry.1, entry.2)

variable (resolve : Descriptor → FieldType → Except ResolveError PropertyValues)

/-- Types in turn up to the first that cannot be resolved, with their values. -/
def resolvedTypes (descriptor : Descriptor) : List FieldType → List (FieldType × PropertyValues)
  | [] => []
  | fieldType :: rest =>
    match resolve descriptor fieldType with
    | .ok values => (fieldType, values) :: resolvedTypes descriptor rest
    | .error _ => []

def searchablePart (descriptor : Descriptor) : List (String × List Value) :=
  (descriptor.resolvedTypes resolve descriptor.sought).flatMap fun entry => descriptor.named entry.1 entry.2

/-- What a descriptor has for the fields of its facet, which needs all its searchable types to be resolved. -/
def facetPart (descriptor : Descriptor) : List (String × List Value) :=
  match descriptor.facetType with
  | some fieldType =>
    match descriptor.sought.all fun fieldType => (resolve descriptor fieldType).isOk,
      resolve descriptor fieldType with
    | true, .ok values => descriptor.named fieldType values
    | _, _ => []
  | none => []

def isSearched (name : String) (descriptors : List Descriptor) : Bool :=
  descriptors.any fun descriptor => !(Document.under name (descriptor.searchablePart resolve)).isEmpty

/-- What a descriptor contributes to a field after the descriptors before it. -/
def contribution (name : String) (earlier : List Descriptor) (descriptor : Descriptor) : List (List Value) :=
  Document.under name (descriptor.searchablePart resolve) ++
    if isSearched resolve name (earlier ++ [descriptor]) then []
    else Document.under name (descriptor.facetPart resolve)

def contributions (name : String) (descriptors : List Descriptor) : List (List Value) :=
  descriptors.zipIdx.flatMap fun entry => contribution resolve name (descriptors.take entry.2) entry.1

end Descriptor

namespace Builder

def finds (builder : Builder) (resolving : Resolving) (item : Item) (locales : List Locale) (request : RequestContext)
    (descriptor : Descriptor) (fieldType : FieldType) : Except ResolveError PropertyValues :=
  (builder.resolve ⟨item, descriptor, fieldType, locales, request⟩).answer resolving.reply

namespace Draft

def take (draft : Draft) (additions : List (String × List Value)) : Draft :=
  ⟨draft.document.addAll additions, (additions.map (·.1)).reverse ++ draft.used⟩

theorem take_append (draft : Draft) (first second : List (String × List Value)) :
    draft.take (first ++ second) = (draft.take first).take second := by
  simp [take, Document.addAll_append]

theorem addSearchable_eq (draft : Draft) (descriptor : Descriptor) (fieldType : FieldType) (values : PropertyValues) :
    draft.addSearchable descriptor fieldType values = draft.take (descriptor.named fieldType values) := by
  unfold addSearchable Descriptor.named
  generalize values.entries = entries
  induction entries generalizing draft with
  | nil => rfl
  | cons entry rest ih =>
    rw [List.foldl_cons, ih, List.map_cons]
    exact (take_append draft [(Naming.propertyField descriptor fieldType entry.1, entry.2)] _).symm

theorem gains_take (draft : Draft) (additions : List (String × List Value)) (name : String) :
    Document.Gains draft.document name (Document.under name additions) (draft.take additions).document :=
  Document.gains_addAll _ _ _

theorem contains_take (draft : Draft) (additions : List (String × List Value)) (name : String) :
    (draft.take additions).used.contains name =
      (draft.used.contains name || !(Document.under name additions).isEmpty) := by
  rw [Bool.eq_iff_iff]
  have listed := @Document.under_ne_nil name additions
  simp only [take, List.contains_iff_mem, List.mem_append, List.mem_reverse, Bool.or_eq_true, Bool.not_eq_true',
    List.isEmpty_eq_false_iff, listed]
  exact or_comm

def facet (draft : Draft) (additions : List (String × List Value)) : Draft :=
  { draft with document := draft.document.addAll (additions.filter fun addition => !draft.used.contains addition.1) }

theorem addFacet_eq (draft : Draft) (descriptor : Descriptor) (fieldType : FieldType) (values : PropertyValues) :
    draft.addFacet descriptor fieldType values = draft.facet (descriptor.named fieldType values) := by
  unfold addFacet Descriptor.named
  generalize values.entries = entries
  induction entries generalizing draft with
  | nil => rfl
  | cons entry rest ih =>
    rw [List.foldl_cons, ih]
    by_cases taken : draft.used.contains (Naming.propertyField descriptor fieldType entry.1)
    · simp only [taken, facet, List.map_cons, if_true, List.filter_cons, Bool.not_true, Bool.false_eq_true, if_false]
    · simp only [taken, facet, List.map_cons, Bool.false_eq_true, if_false, List.filter_cons, Bool.not_false, if_true,
        Document.addAll, List.foldl_cons]

/-- A facet adds all its lists to a field or, if the name of the field is used, none of them. -/
theorem gains_facet (draft : Draft) (additions : List (String × List Value)) (name : String) :
    Document.Gains draft.document name
      (if draft.used.contains name then [] else Document.under name additions) (draft.facet additions).document := by
  have kept : Document.under name (additions.filter fun addition => !draft.used.contains addition.1) =
      if draft.used.contains name then [] else Document.under name additions := by
    unfold Document.under
    rw [List.filter_filter]
    by_cases used : draft.used.contains name
    · rw [if_pos used, List.map_eq_nil_iff, List.filter_eq_nil_iff]
      intro addition _ kept
      obtain ⟨hit, free⟩ := Bool.and_eq_true_iff.1 kept
      rw [beq_iff_eq.1 hit, used] at free
      cases free
    · rw [if_neg used]
      congr 1
      apply List.filter_congr
      intro addition _
      by_cases hit : addition.1 = name
      · rw [hit, Bool.eq_false_iff.2 used]
        simp
      · simp [hit]
  rw [← kept]
  exact Document.gains_addAll _ _ _

def describe (resolve : Descriptor → FieldType → Except ResolveError PropertyValues) (draft : Draft)
    (descriptor : Descriptor) : Draft :=
  (draft.take (descriptor.searchablePart resolve)).facet (descriptor.facetPart resolve)

end Draft

section

variable {builder : Builder} {resolving : Resolving} {item : Item} {locales : List Locale} {request : RequestContext}

theorem answer_attachTypes (descriptor : Descriptor) (types : List FieldType) (draft : Draft) :
    (attachTypes builder (fun fieldType => ⟨item, descriptor, fieldType, locales, request⟩) descriptor types
        draft).answer resolving.reply =
      (types.all fun fieldType => (builder.finds resolving item locales request descriptor fieldType).isOk,
        draft.take ((descriptor.resolvedTypes (builder.finds resolving item locales request) types).flatMap
          fun entry => descriptor.named entry.1 entry.2)) := by
  induction types generalizing draft with
  | nil => rfl
  | cons fieldType rest ih =>
    have found : (builder.resolve ⟨item, descriptor, fieldType, locales, request⟩).answer resolving.reply =
        builder.finds resolving item locales request descriptor fieldType := rfl
    unfold attachTypes Descriptor.resolvedTypes
    rw [Dialogue.answer_bind, found, List.all_cons]
    cases builder.finds resolving item locales request descriptor fieldType with
    | error error => rfl
    | ok values =>
      dsimp only
      rw [ih, Draft.addSearchable_eq, List.flatMap_cons, Draft.take_append]
      rfl

theorem answer_attachDescriptor (descriptor : Descriptor) (draft : Draft) :
    (attachDescriptor builder item locales request descriptor draft).answer resolving.reply =
      (draft.take (descriptor.searchablePart (builder.finds resolving item locales request))).facet
        (descriptor.facetPart (builder.finds resolving item locales request)) := by
  have types : (attachTypes builder (fun fieldType => ⟨item, descriptor, fieldType, locales, request⟩) descriptor
      (if descriptor.searchable then descriptor.searchableTypes else []) draft).answer resolving.reply =
      (descriptor.sought.all fun fieldType =>
          (builder.finds resolving item locales request descriptor fieldType).isOk,
        draft.take (descriptor.searchablePart (builder.finds resolving item locales request))) :=
    answer_attachTypes descriptor descriptor.sought draft
  unfold attachDescriptor Descriptor.facetPart
  rw [Dialogue.answer_bind, types]
  dsimp only
  cases descriptor.facetType with
  | none =>
    cases descriptor.sought.all fun fieldType =>
      (builder.finds resolving item locales request descriptor fieldType).isOk <;> rfl
  | some fieldType =>
    cases descriptor.sought.all fun fieldType =>
      (builder.finds resolving item locales request descriptor fieldType).isOk with
    | false => rfl
    | true =>
      have found : (builder.resolve ⟨item, descriptor, fieldType, locales, request⟩).answer resolving.reply =
          builder.finds resolving item locales request descriptor fieldType := rfl
      dsimp only
      rw [Dialogue.answer_bind, found]
      cases builder.finds resolving item locales request descriptor fieldType with
      | error error => rfl
      | ok values => exact Draft.addFacet_eq _ _ _ _

theorem answer_attachDescriptors_cons (descriptor : Descriptor) (rest : List Descriptor) (draft : Draft) :
    (attachDescriptors builder item locales request (descriptor :: rest) draft).answer resolving.reply =
      (attachDescriptors builder item locales request rest
        ((draft.take (descriptor.searchablePart (builder.finds resolving item locales request))).facet
          (descriptor.facetPart (builder.finds resolving item locales request)))).answer resolving.reply := by
  conv =>
    lhs
    unfold attachDescriptors
  rw [Dialogue.answer_bind, answer_attachDescriptor]

theorem answer_attachDescriptors (resolving : Resolving) (descriptors : List Descriptor) (draft : Draft) :
    (attachDescriptors builder item locales request descriptors draft).answer resolving.reply =
      descriptors.foldl (Draft.describe (builder.finds resolving item locales request)) draft := by
  induction descriptors generalizing draft with
  | nil => rfl
  | cons descriptor rest ih =>
    rw [answer_attachDescriptors_cons, ih]
    rfl

/-- Descriptors contribute to a field what each of them contributes after the ones before it. -/
theorem gains_attachDescriptors (name : String) (earlier descriptors : List Descriptor) (draft : Draft)
    (searched : draft.used.contains name =
      Descriptor.isSearched (builder.finds resolving item locales request) name earlier) :
    Document.Gains draft.document name
      ((descriptors.zipIdx earlier.length).flatMap fun entry =>
        Descriptor.contribution (builder.finds resolving item locales request) name
          ((earlier ++ descriptors).take entry.2) entry.1)
      ((attachDescriptors builder item locales request descriptors draft).answer resolving.reply).document := by
  induction descriptors generalizing earlier draft with
  | nil => exact Document.gains_nil _ _
  | cons descriptor rest ih =>
    generalize known : builder.finds resolving item locales request = resolve at searched ih ⊢
    have taken : (draft.take (descriptor.searchablePart resolve)).used.contains name =
        Descriptor.isSearched resolve name (earlier ++ [descriptor]) := by
      rw [Draft.contains_take, searched]
      simp [Descriptor.isSearched]
    have first := (Draft.gains_take draft (descriptor.searchablePart resolve) name).append
      (Draft.gains_facet (draft.take (descriptor.searchablePart resolve)) (descriptor.facetPart resolve) name)
    have later := ih (earlier ++ [descriptor]) ((draft.take (descriptor.searchablePart resolve)).facet
      (descriptor.facetPart resolve)) taken
    rw [answer_attachDescriptors_cons, known, List.zipIdx_cons, List.flatMap_cons, List.take_left]
    rw [List.length_append, List.append_assoc] at later
    rw [taken] at first
    exact first.append later

theorem answer_attachDescriptors_append (before later : List Descriptor) (draft : Draft) :
    (attachDescriptors builder item locales request (before ++ later) draft).answer resolving.reply =
      (attachDescriptors builder item locales request later
        ((attachDescriptors builder item locales request before draft).answer resolving.reply)).answer
          resolving.reply := by
  induction before generalizing draft with
  | nil => rfl
  | cons descriptor rest ih =>
    rw [List.cons_append, answer_attachDescriptors_cons, answer_attachDescriptors_cons]
    exact ih _

theorem parts_of_unresolved {resolve : Descriptor → FieldType → Except ResolveError PropertyValues}
    {descriptor : Descriptor}
    (unresolved : ∀ fieldType, fieldType ∈ descriptor.sought ∨ descriptor.facetType = some fieldType →
      ∃ error, resolve descriptor fieldType = .error error) :
    descriptor.searchablePart resolve = [] ∧ descriptor.facetPart resolve = [] := by
  constructor
  · unfold Descriptor.searchablePart
    cases types : descriptor.sought with
    | nil => rfl
    | cons fieldType rest =>
      obtain ⟨error, failed⟩ := unresolved fieldType (.inl (types ▸ List.mem_cons_self))
      unfold Descriptor.resolvedTypes
      rw [failed]
      rfl
  · unfold Descriptor.facetPart
    cases facet : descriptor.facetType with
    | none => rfl
    | some fieldType =>
      obtain ⟨error, failed⟩ := unresolved fieldType (.inr facet)
      dsimp only
      rw [failed]
      split
      · rename_i impossible
        cases impossible
      · rfl

theorem answer_attachDescriptors_of_unresolved {descriptor : Descriptor}
    (unresolved : ∀ fieldType, fieldType ∈ descriptor.sought ∨ descriptor.facetType = some fieldType →
      ∃ error, builder.finds resolving item locales request descriptor fieldType = .error error)
    (before later : List Descriptor) (draft : Draft) :
    (attachDescriptors builder item locales request (before ++ descriptor :: later) draft).answer resolving.reply =
      (attachDescriptors builder item locales request (before ++ later) draft).answer resolving.reply := by
  obtain ⟨nothing, noFacet⟩ := parts_of_unresolved unresolved
  rw [answer_attachDescriptors_append, answer_attachDescriptors_cons, nothing, noFacet,
    answer_attachDescriptors_append]
  rfl

variable {σ : Type} {respond : Dialogue.Responder HandlerQuestion.Reply σ} {state after : σ} {basic : Document}
  {taken : Bool}

theorem fst_exec_build (steady : resolving.Steady respond)
    (attached : (builder.chain.attach item (builder.identity item)).exec respond state = ((basic, .ok taken), after))
    (descriptors : List Descriptor) :
    ((builder.build item descriptors locales request).exec respond state).1 =
      .ok ((attachDescriptors builder item locales request descriptors
        ⟨basic.addAll (categoryFields item), []⟩).answer resolving.reply).document := by
  unfold build
  rw [Dialogue.exec_bind, attached]
  dsimp only
  rw [Dialogue.exec_bind, (Resolves.attachDescriptors _ _ _ _ _).fst_exec steady]
  rfl

/-- With handlers that resolve by a function every item whose basic fields can be had has a document. Each field of it
holds the basic values, those of the categories and what the descriptors contribute, and a descriptor of which nothing
can be resolved might as well not be there. -/
theorem fields_told_by_contributions (steady : resolving.Steady respond)
    (attached : (builder.chain.attach item (builder.identity item)).exec respond state = ((basic, .ok taken), after))
    (descriptors : List Descriptor) (locales : List Locale) (request : RequestContext) :
    ∃ document, ((builder.build item descriptors locales request).exec respond state).1 = .ok document ∧
      (∀ name, Document.Gains basic name
        (Document.under name (categoryFields item) ++
          Descriptor.contributions (builder.finds resolving item locales request) name descriptors) document) ∧
      ∀ before descriptor later, descriptors = before ++ descriptor :: later →
        (∀ fieldType, fieldType ∈ descriptor.sought ∨ descriptor.facetType = some fieldType →
          ∃ error, builder.finds resolving item locales request descriptor fieldType = .error error) →
        ((builder.build item (before ++ later) locales request).exec respond state).1 = .ok document := by
  refine ⟨_, fst_exec_build steady attached descriptors, fun name => ?_, ?_⟩
  · have categories := Document.gains_addAll basic name (categoryFields item)
    have unsearched : List.contains [] name =
        Descriptor.isSearched (builder.finds resolving item locales request) name [] := rfl
    exact categories.append (gains_attachDescriptors name [] descriptors ⟨_, []⟩ unsearched)
  · rintro before descriptor later rfl unresolved
    rw [fst_exec_build steady attached, answer_attachDescriptors_of_unresolved unresolved]

end
end Builder

namespace Trial

/-- A property that is searchable under two types, of which the second cannot be resolved. -/
def color : Descriptor := ⟨"color", "color", true, [.text, .string], some .string⟩

/-- A facet that would go to the same field as the property before it. -/
def tone : Descriptor := ⟨"tone", "color", false, [], some .text⟩

def weight : Descriptor := ⟨"weight", "weight", true, [.decimal], some .decimal⟩

def resolving : Resolving := fun _ resolution =>
  if resolution.descriptor = color ∧ resolution.fieldType = .text then
    .ok (some (Table.ofList [("", [.text "red"]), ("en", [])]))
  else if resolution.descriptor = tone then .ok (some (Table.ofList [("", [.text "dark"]), ("de", [.text "dunkel"])]))
  else .error ⟨"shades", "unknown"⟩

def shades : Dialogue.Responder HandlerQuestion.Reply Nat
  | .attach .., count => (Attachment.mk [("number", [.integer (Int64.ofNat count)])] (.ok false), count + 1)
  | .resolve key resolution, count => (resolving key resolution, count)

def shadesBuilder : Builder := ⟨"shop", [.outside "shades" 0], .standard⟩

def numbered : Document := (shadesBuilder.identity (.new 1)).addAll [("number", [.integer 7])]

end Trial

namespace Builder

theorem fields_told_by_contributions_trial :
    ∃ document, ((Trial.shadesBuilder.build (.new 1) [Trial.color, Trial.weight, Trial.tone] [] .empty).exec
        Trial.shades 7).1 = .ok document ∧
      ((Trial.shadesBuilder.build (.new 1) [Trial.color, Trial.tone] [] .empty).exec Trial.shades 7).1 =
        .ok document ∧
      document.values "color" = [.text "red"] ∧ document.values "color_de" = [.text "dunkel"] ∧
      document.values "color_en" = [] ∧ document.contains "color_en" = true ∧
      document.contains "color_s" = false := by
  have steady : Trial.resolving.Steady Trial.shades := fun _ _ _ => rfl
  have attached : (Trial.shadesBuilder.chain.attach (.new 1) (Trial.shadesBuilder.identity (.new 1))).exec
      Trial.shades 7 = ((Trial.numbered, .ok false), 8) := rfl
  obtain ⟨document, built, gains, without⟩ := fields_told_by_contributions steady attached
    [Trial.color, Trial.weight, Trial.tone] [] .empty
  have shorter := without [Trial.color] Trial.weight [Trial.tone] rfl fun fieldType _ => ⟨_, rfl⟩
  refine ⟨document, built, shorter, (gains "color").values.trans ?_, (gains "color_de").values.trans ?_,
    (gains "color_en").values.trans ?_, (gains "color_en").contains.2 ?_, ?_⟩
  · decide
  · decide
  · decide
  · decide
  · exact Bool.eq_false_iff.2 fun present => absurd ((gains "color_s").contains.1 present) (by decide)

end Builder
end CatalogIndex
