import CatalogIndex.Generation.Memory
import Mathlib.Data.List.TakeWhile
/-!
Which documents a delete query is for: all of them, or those in which some value of a field has a text. Every other
query is for nothing and is refused.
-/
namespace CatalogIndex

theorem Cut.atFirst_eq_some {mark : Char} {chars before after : List Char} :
    atFirst mark chars = some (before, after) ↔ mark ∉ before ∧ chars = before ++ mark :: after := by
  induction chars generalizing before with
  | nil => simp [atFirst]
  | cons c rest ih =>
    unfold atFirst
    by_cases hit : c = mark
    · rw [if_pos hit]
      cases before with
      | nil => simp [hit, eq_comm]
      | cons first others => simp +contextual [hit, eq_comm]
    · rw [if_neg hit, Option.map_eq_some_iff]
      constructor
      · rintro ⟨⟨front, back⟩, found, same⟩
        obtain ⟨free, rfl⟩ := ih.1 (found.trans (congrArg some (Prod.ext rfl (Prod.mk.inj same).2)))
        obtain ⟨rfl, rfl⟩ := Prod.mk.inj same
        exact ⟨by simp [Ne.symm hit, free], rfl⟩
      · rintro ⟨free, whole⟩
        cases before with
        | nil => exact absurd (List.cons.inj whole).1 hit
        | cons first others =>
          obtain ⟨rfl, rest⟩ := List.cons.inj whole
          exact ⟨(others, after), ih.2 ⟨fun member => free (List.mem_cons_of_mem _ member), rest⟩, rfl⟩

namespace Blank

theorem skip_append {blanks : List Char} (blank : ∀ c ∈ blanks, isBlank c = true) (rest : List Char) :
    skip (blanks ++ rest) = skip rest :=
  List.dropWhile_append_of_pos blank

theorem exists_skip (chars : List Char) : ∃ blanks, (∀ c ∈ blanks, isBlank c = true) ∧ chars = blanks ++ skip chars :=
  ⟨chars.takeWhile isBlank, fun _ member => List.mem_takeWhile_imp member, List.takeWhile_append_dropWhile.symm⟩

theorem exists_trim (chars : List Char) : ∃ before after, (∀ c ∈ before, isBlank c = true) ∧
    (∀ c ∈ after, isBlank c = true) ∧ chars = before ++ trim chars ++ after := by
  obtain ⟨before, front, whole⟩ := exists_skip chars
  obtain ⟨after, back, rest⟩ := exists_skip (skip chars).reverse
  refine ⟨before, after.reverse, front, fun c member => back c (List.mem_reverse.1 member), ?_⟩
  have turned : skip chars = trim chars ++ after.reverse := by
    unfold trim
    rw [← List.reverse_append, ← rest, List.reverse_reverse]
  rw [List.append_assoc, ← turned]
  exact whole

end Blank

namespace Deletion

/-- A query for all documents; blanks may stand around it. -/
def IsForAll (query : String) : Prop :=
  ∃ before after : String, (∀ c ∈ before.toList, Blank.isBlank c = true) ∧
    (∀ c ∈ after.toList, Blank.isBlank c = true) ∧ query = before ++ allDocuments ++ after

/-- A query for the text of a field. They stand before and after its first colon. -/
def IsFor (query field text : String) : Prop :=
  field ≠ "" ∧ text ≠ "" ∧ ':' ∉ field.toList ∧ query = field ++ ":" ++ text

def Supported (query : String) : Prop := IsForAll query ∨ ∃ field text, IsFor query field text

def Matches (query : String) (document : Document) : Prop :=
  IsForAll query ∨ ∃ field text, IsFor query field text ∧ ∃ value ∈ document.values field, value.display = text

variable {query field text : String} {document : Document}

theorem isForAll_iff : IsForAll query ↔ Blank.trimText query = allDocuments := by
  constructor
  · rintro ⟨before, after, front, back, rfl⟩
    have core : Blank.trim (before.toList ++ ['*', ':', '*'] ++ after.toList) = ['*', ':', '*'] := by
      unfold Blank.trim
      rw [List.append_assoc, Blank.skip_append front]
      have first : Blank.skip (['*', ':', '*'] ++ after.toList) = ['*', ':', '*'] ++ after.toList := rfl
      rw [first, List.reverse_append, Blank.skip_append fun c member => back c (List.mem_reverse.1 member)]
      rfl
    unfold Blank.trimText
    rw [String.toList_append, String.toList_append]
    exact congrArg String.ofList core
  · intro trimmed
    obtain ⟨before, after, front, back, whole⟩ := Blank.exists_trim query.toList
    have core : Blank.trim query.toList = allDocuments.toList := by
      rw [← trimmed]
      exact (String.toList_ofList).symm
    refine ⟨String.ofList before, String.ofList after, by simpa using front, by simpa using back, ?_⟩
    rw [core] at whole
    rw [← String.toList_inj, String.toList_append, String.toList_append]
    simpa using whole

theorem isFor_iff : IsFor query field text ↔
    Cut.atFirst ':' query.toList = some (field.toList, text.toList) ∧ field.toList ≠ [] ∧ text.toList ≠ [] := by
  have whole : query = field ++ ":" ++ text ↔ query.toList = field.toList ++ ':' :: text.toList := by
    rw [← String.toList_inj, String.toList_append, String.toList_append, List.append_assoc]
    rfl
  unfold IsFor
  rw [Cut.atFirst_eq_some, ne_eq, ne_eq, ne_eq, ne_eq, String.toList_eq_nil_iff, String.toList_eq_nil_iff, whole]
  constructor
  · rintro ⟨named, some, free, parts⟩
    exact ⟨⟨free, parts⟩, named, some⟩
  · rintro ⟨⟨free, parts⟩, named, some⟩
    exact ⟨named, some, free, parts⟩

theorem IsFor.unique {other words : String} (left : IsFor query field text) (right : IsFor query other words) :
    other = field ∧ words = text := by
  have same := (isFor_iff.1 right).1.symm.trans (isFor_iff.1 left).1
  rw [Option.some.injEq, Prod.mk.injEq, String.toList_inj, String.toList_inj] at same
  exact same

inductive Asks (query : String) : Option Change → Prop where
  | all (isForAll : IsForAll query) : Asks query (some .clear)
  | field {field text : String} (notForAll : ¬ IsForAll query) (isFor : IsFor query field text) :
      Asks query (some (.remove field text))
  | nothing (unsupported : ¬ Supported query) : Asks query none

theorem asks_ofQuery? (query : String) : Asks query (Change.ofQuery? query) := by
  unfold Change.ofQuery?
  split
  · rename_i trimmed
    exact .all (isForAll_iff.2 trimmed)
  · rename_i untrimmed
    have notForAll : ¬ IsForAll query := fun isForAll => untrimmed (isForAll_iff.1 isForAll)
    split
    · rename_i field text found
      have reads (name words : String) : IsFor query name words ↔
          name.toList = field ∧ words.toList = text ∧ name.toList ≠ [] ∧ words.toList ≠ [] := by
        rw [isFor_iff, found, Option.some.injEq, Prod.mk.injEq, and_assoc, eq_comm, @eq_comm _ text]
      split
      · rename_i empty
        refine .nothing fun supported => ?_
        obtain isForAll | ⟨name, words, isFor⟩ := supported
        · exact notForAll isForAll
        · obtain ⟨rfl, rfl, named, some⟩ := (reads name words).1 isFor
          exact empty.elim named some
      · rename_i some
        rw [not_or] at some
        exact .field notForAll ((reads _ _).2 (by simp [some.1, some.2]))
    · rename_i unmarked
      refine .nothing fun supported => ?_
      obtain isForAll | ⟨name, words, isFor⟩ := supported
      · exact notForAll isForAll
      · rw [(isFor_iff.1 isFor).1] at unmarked
        cases unmarked

theorem not_matches (unsupported : ¬ Supported query) : ¬ Matches query document := by
  rintro (isForAll | ⟨field, text, isFor, -⟩)
  · exact unsupported (.inl isForAll)
  · exact unsupported (.inr ⟨field, text, isFor⟩)

theorem IsFor.matches_iff (isFor : IsFor query field text) (notForAll : ¬ IsForAll query) :
    Matches query document ↔ Change.shows field text document = true := by
  unfold Change.shows
  rw [List.any_eq_true]
  constructor
  · rintro (isForAll | ⟨name, words, other, value, member, shown⟩)
    · exact absurd isForAll notForAll
    · obtain ⟨rfl, rfl⟩ := isFor.unique other
      exact ⟨value, member, beq_iff_eq.2 shown⟩
  · rintro ⟨value, member, shown⟩
    exact .inr ⟨field, text, isFor, value, member, beq_iff_eq.1 shown⟩

end Deletion
end CatalogIndex
