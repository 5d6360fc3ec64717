import CatalogIndex.Proofs.Contributions
import Mathlib.Logic.Basic
/-!
Descriptors in another order. What a descriptor does to a draft it does to each field by itself, and of a field that it
does not contribute to it changes nothing. So descriptors that contribute to different fields may change places, even if
the basic fields or those of the categories have the same names.
-/
namespace CatalogIndex

theorem Document.ext_values {left right : Document} (values : ∀ name, left.values name = right.values name)
    (contains : ∀ name, left.contains name = right.contains name) : left = right := by
  have fields : left.fields = right.fields := by
    refine Table.ext_find? fun name => ?_
    have value := values name
    have present := contains name
    unfold Document.values at value
    unfold Document.contains Table.contains at present
    cases found : left.fields.find? name <;> cases other : right.fields.find? name <;> simp_all
  cases left
  cases right
  exact congrArg Document.mk fields

namespace Descriptor

/-- The fields that a descriptor contributes to. Those of its facet are among them even if a searchable contribution of
another descriptor should come to them first. -/
def fieldNames (resolve : Descriptor → FieldType → Except ResolveError PropertyValues) (descriptor : Descriptor) :
    List String :=
  (descriptor.searchablePart resolve ++ descriptor.facetPart resolve).map (·.1)

end Descriptor

namespace Builder

/-- What a draft has under one name: the values of the field, whether it has the field, and whether a searchable
contribution has come to it. -/
structure Slot where
  values : List Value
  present : Bool
  used : Bool

def Draft.slot (draft : Draft) (name : String) : Slot :=
  ⟨draft.document.values name, draft.document.contains name, draft.used.contains name⟩

section

variable (resolve : Descriptor → FieldType → Except ResolveError PropertyValues) (name : String)

def Slot.describe (slot : Slot) (descriptor : Descriptor) : Slot :=
  let searchable := Document.under name (descriptor.searchablePart resolve)
  let used := slot.used || !searchable.isEmpty
  let lists := searchable ++ if used then [] else Document.under name (descriptor.facetPart resolve)
  ⟨slot.values ++ lists.flatten, slot.present || !lists.isEmpty, used⟩

theorem Draft.slot_describe (draft : Draft) (descriptor : Descriptor) :
    (draft.describe resolve descriptor).slot name = (draft.slot name).describe resolve name descriptor := by
  have searched := draft.contains_take (descriptor.searchablePart resolve) name
  have gains := (draft.gains_take (descriptor.searchablePart resolve) name).append
    ((draft.take (descriptor.searchablePart resolve)).gains_facet (descriptor.facetPart resolve) name)
  rw [searched] at gains
  have present : (draft.describe resolve descriptor).document.contains name =
      ((draft.slot name).describe resolve name descriptor).present := by
    rw [Bool.eq_iff_iff]
    refine gains.contains.trans ?_
    simp only [Slot.describe, Draft.slot, Bool.or_eq_true, Bool.not_eq_true', List.isEmpty_eq_false_iff]
  exact congr (congr (congrArg Slot.mk gains.values) present) searched

theorem Draft.slot_foldl (descriptors : List Descriptor) (draft : Draft) :
    (descriptors.foldl (Draft.describe resolve) draft).slot name =
      descriptors.foldl (Slot.describe resolve name) (draft.slot name) := by
  induction descriptors generalizing draft with
  | nil => rfl
  | cons descriptor rest ih => rw [List.foldl_cons, ih, Draft.slot_describe, List.foldl_cons]

variable {resolve name}

theorem Slot.describe_of_not_mem {descriptor : Descriptor} (absent : name ∉ descriptor.fieldNames resolve)
    (slot : Slot) : slot.describe resolve name descriptor = slot := by
  unfold Descriptor.fieldNames at absent
  rw [List.map_append, List.mem_append, not_or, ← Document.under_ne_nil, ← Document.under_ne_nil, not_not,
    not_not] at absent
  unfold Slot.describe
  simp [absent.1, absent.2]

theorem Slot.describe_comm {left right : Descriptor}
    (apart : left ≠ right → ∀ name ∈ left.fieldNames resolve, name ∉ right.fieldNames resolve) (slot : Slot) :
    (slot.describe resolve name left).describe resolve name right =
      (slot.describe resolve name right).describe resolve name left := by
  by_cases same : left = right
  · rw [same]
  · by_cases touched : name ∈ left.fieldNames resolve
    · have absent := apart same name touched
      rw [describe_of_not_mem absent, describe_of_not_mem absent]
    · rw [describe_of_not_mem touched, describe_of_not_mem touched]

theorem Draft.document_of_perm {descriptors others : List Descriptor} (perm : others.Perm descriptors)
    (apart : ∀ left ∈ descriptors, ∀ right ∈ descriptors, left ≠ right →
      ∀ name ∈ left.fieldNames resolve, name ∉ right.fieldNames resolve) (draft : Draft) :
    (others.foldl (Draft.describe resolve) draft).document =
      (descriptors.foldl (Draft.describe resolve) draft).document := by
  have slots (name : String) : (others.foldl (Draft.describe resolve) draft).slot name =
      (descriptors.foldl (Draft.describe resolve) draft).slot name := by
    rw [Draft.slot_foldl, Draft.slot_foldl]
    refine (perm.symm.foldl_eq' (fun left first right second slot => ?_) _).symm
    exact Slot.describe_comm (apart left first right second) slot
  exact Document.ext_values (fun name => congrArg Slot.values (slots name))
    fun name => congrArg Slot.present (slots name)

end

variable {builder : Builder} {resolving : Resolving} {item : Item} {locales : List Locale} {request : RequestContext}
  {σ : Type} {respond : Dialogue.Responder HandlerQuestion.Reply σ} {state later : σ}

theorem fst_exec_build_of_error {basic : Document} {error : ExtensionError} {after : σ}
    (refused : (builder.chain.attach item (builder.identity item)).exec respond state = ((basic, .error error), after))
    (descriptors : List Descriptor) :
    ((builder.build item descriptors locales request).exec respond state).1 = .error error := by
  unfold build
  rw [Dialogue.exec_bind, refused]
  rfl

/-- With handlers that resolve by a function the order of the descriptors does not matter for the document of an item,
provided that no two different ones contribute to the same field of it. -/
theorem descriptors_interchange (steady : resolving.Steady respond)
    (basic : ((builder.chain.attach item (builder.identity item)).exec respond later).1 =
      ((builder.chain.attach item (builder.identity item)).exec respond state).1)
    {descriptors others : List Descriptor} (perm : others.Perm descriptors)
    (apart : ∀ left ∈ descriptors, ∀ right ∈ descriptors, left ≠ right →
      ∀ name ∈ left.fieldNames (builder.finds resolving item locales request),
        name ∉ right.fieldNames (builder.finds resolving item locales request)) :
    ∃ outcome, ((builder.build item descriptors locales request).exec respond state).1 = outcome ∧
      ((builder.build item others locales request).exec respond later).1 = outcome ∧
      ∀ document taken, ((builder.chain.attach item (builder.identity item)).exec respond state).1 =
        (document, .ok taken) → ∃ built, outcome = .ok built := by
  rcases attached : (builder.chain.attach item (builder.identity item)).exec respond state with
    ⟨⟨document, reply⟩, after⟩
  rcases again : (builder.chain.attach item (builder.identity item)).exec respond later with ⟨first, last⟩
  rw [attached, again] at basic
  obtain rfl : first = (document, reply) := basic
  cases reply with
  | error error =>
    exact ⟨_, fst_exec_build_of_error attached descriptors, fst_exec_build_of_error again others, nofun⟩
  | ok taken =>
    refine ⟨_, fst_exec_build steady attached descriptors, ?_, fun _ _ _ => ⟨_, rfl⟩⟩
    rw [fst_exec_build steady again, answer_attachDescriptors, answer_attachDescriptors,
      Draft.document_of_perm perm apart]

/-- A facet counts even where it is left out, which it is behind a searchable contribution to its field, not before it. -/
example :
    Trial.color.fieldNames (Trial.shadesBuilder.finds Trial.resolving (.new 1) [] .empty) = ["color", "color_en"] ∧
    Trial.tone.fieldNames (Trial.shadesBuilder.finds Trial.resolving (.new 1) [] .empty) = ["color", "color_de"] ∧
    ((Trial.shadesBuilder.build (.new 1) [Trial.color, Trial.tone] [] .empty).exec Trial.shades 7).1.map
      (·.values "color") = .ok [.text "red"] ∧
    ((Trial.shadesBuilder.build (.new 1) [Trial.tone, Trial.color] [] .empty).exec Trial.shades 7).1.map
      (·.values "color") = .ok [.text "dark", .text "red"] :=
  ⟨by decide, by decide, rfl, rfl⟩

end Builder

namespace Trial

def amount : Descriptor := ⟨"amount", "number", true, [.text], none⟩

def department : Descriptor := ⟨"department", "itemId", false, [], some .text⟩

def counting : Resolving := fun key resolution =>
  if resolution.descriptor = amount then .ok (some (Table.ofList [("", [.integer 3])]))
  else if resolution.descriptor = department then .ok (some (Table.ofList [("", [.text "fruit"])]))
  else resolving key resolution

def counters : Dialogue.Responder HandlerQuestion.Reply Nat
  | .attach .., count => (Attachment.mk [("number", [.integer 7])] (.ok false), count + 1)
  | .resolve key resolution, count => (counting key resolution, count + 1)

end Trial

namespace Builder

theorem descriptors_interchange_trial :
    ∃ document, ((Trial.shadesBuilder.build (.new 1) [Trial.color, Trial.amount, Trial.department] [] .empty).exec
        Trial.counters 0).1 = .ok document ∧
      ((Trial.shadesBuilder.build (.new 1) [Trial.department, Trial.color, Trial.amount] [] .empty).exec
        Trial.counters 5).1 = .ok document ∧
      document.values "number" = [.integer 7, .integer 3] ∧
      document.values "itemId" = [.integer 1, .text "fruit"] ∧ document.contains "color_en" = true := by
  have steady : Trial.counting.Steady Trial.counters := fun _ _ _ => rfl
  have basic : ((Trial.shadesBuilder.chain.attach (.new 1) (Trial.shadesBuilder.identity (.new 1))).exec
        Trial.counters 5).1 =
      ((Trial.shadesBuilder.chain.attach (.new 1) (Trial.shadesBuilder.identity (.new 1))).exec
        Trial.counters 0).1 := rfl
  have perm : [Trial.department, Trial.color, Trial.amount].Perm [Trial.color, Trial.amount, Trial.department] := by
    decide
  have apart : ∀ left ∈ [Trial.color, Trial.amount, Trial.department],
      ∀ right ∈ [Trial.color, Trial.amount, Trial.department], left ≠ right →
        ∀ name ∈ left.fieldNames (Trial.shadesBuilder.finds Trial.counting (.new 1) [] .empty),
          name ∉ right.fieldNames (Trial.shadesBuilder.finds Trial.counting (.new 1) [] .empty) := by
    decide
  obtain ⟨outcome, built, again, succeeds⟩ := descriptors_interchange steady basic perm apart
  obtain ⟨document, rfl⟩ := succeeds _ _ rfl
  refine ⟨document, built, again, ?_⟩
  have fields : ((Trial.shadesBuilder.build (.new 1) [Trial.color, Trial.amount, Trial.department] [] .empty).exec
      Trial.counters 0).1.map (fun document =>
        (document.values "number", document.values "itemId", document.contains "color_en")) =
      .ok ([.integer 7, .integer 3], [.integer 1, .text "fruit"], true) := rfl
  rw [built] at fields
  simpa [Except.map] using fields

end Builder
end CatalogIndex
