/-!
Cutting texts at a mark. `join_everywhere` says that the parts between the marks make up the text, and
`everywhere_join` that parts without the mark are found again.
-/
namespace CatalogIndex.Cut

def atFirst (mark : Char) : List Char → Option (List Char × List Char)
  | [] => none
  | c :: rest =>
    if c = mark then some ([], rest)
    else (atFirst mark rest).map fun (before, after) => (c :: before, after)

/-- The parts between the marks; there is one more of them than of marks. -/
def everywhere (mark : Char) : List Char → List (List Char)
  | [] => [[]]
  | c :: rest =>
    if c = mark then [] :: everywhere mark rest
    else match everywhere mark rest with
      | [] => [[c]]
      | first :: others => (c :: first) :: others

def join (mark : Char) : List (List Char) → List Char
  | [] => []
  | [single] => single
  | first :: rest => first ++ mark :: join mark rest

theorem everywhere_ne_nil (mark : Char) (chars : List Char) : everywhere mark chars ≠ [] := by
  cases chars with
  | nil => simp [everywhere]
  | cons c rest =>
    unfold everywhere
    split
    · simp
    · split <;> simp

@[simp] theorem join_everywhere (mark : Char) (chars : List Char) : join mark (everywhere mark chars) = chars := by
  induction chars with
  | nil => rfl
  | cons c rest ih =>
    have someParts := everywhere_ne_nil mark rest
    unfold everywhere
    split
    · rename_i isMark
      obtain ⟨first, others, shape⟩ := List.exists_cons_of_ne_nil someParts
      rw [shape] at ih ⊢
      simp [join, ih, isMark]
    · cases shape : everywhere mark rest with
      | nil => exact absurd shape someParts
      | cons first others =>
        rw [shape] at ih
        cases others <;> simp_all [join]

theorem everywhere_append (mark : Char) {part : List Char} (free : mark ∉ part) (rest : List Char) :
    everywhere mark (part ++ mark :: rest) = part :: everywhere mark rest := by
  induction part with
  | nil => simp [everywhere]
  | cons c later ih =>
    have differ : c ≠ mark := fun same => free (same ▸ List.mem_cons_self)
    have laterFree : mark ∉ later := fun member => free (List.mem_cons_of_mem _ member)
    simp [everywhere, differ, ih laterFree]

theorem everywhere_of_not_mem (mark : Char) {part : List Char} (free : mark ∉ part) :
    everywhere mark part = [part] := by
  induction part with
  | nil => rfl
  | cons c later ih =>
    have differ : c ≠ mark := fun same => free (same ▸ List.mem_cons_self)
    have laterFree : mark ∉ later := fun member => free (List.mem_cons_of_mem _ member)
    simp [everywhere, differ, ih laterFree]

theorem everywhere_join (mark : Char) {parts : List (List Char)} (someParts : parts ≠ [])
    (free : ∀ part ∈ parts, mark ∉ part) : everywhere mark (join mark parts) = parts := by
  induction parts with
  | nil => exact absurd rfl someParts
  | cons first rest ih =>
    cases rest with
    | nil => exact everywhere_of_not_mem mark (free first List.mem_cons_self)
    | cons second others =>
      rw [join]
      rw [everywhere_append mark (free first List.mem_cons_self)]
      rw [ih (by simp) fun part member => free part (List.mem_cons_of_mem _ member)]
      simp

end CatalogIndex.Cut
