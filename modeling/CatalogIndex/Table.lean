/-!
Finite maps from texts, kept in ascending order of their keys. The order makes the entry list canonical:
`Table.ext_find?` says that two tables with the same look-ups are the same table.
-/
namespace CatalogIndex

structure Table (α : Type) where
  entries : List (String × α)
  ascending : entries.Pairwise (fun left right => left.1 < right.1)
deriving DecidableEq

namespace Table

variable {α β : Type}

def empty : Table α := ⟨[], .nil⟩

instance : Inhabited (Table α) := ⟨empty⟩

def seek (key : String) : List (String × α) → Option α
  | [] => none
  | (other, value) :: rest => if key = other then some value else seek key rest

/-- Puts a value under its key in an ascending list, replacing what was there. -/
def place (key : String) (value : α) : List (String × α) → List (String × α)
  | [] => [(key, value)]
  | (other, kept) :: rest =>
    if key < other then (key, value) :: (other, kept) :: rest
    else if key = other then (key, value) :: rest
    else (other, kept) :: place key value rest

theorem mem_place {key : String} {value : α} {entry : String × α} {entries : List (String × α)}
    (member : entry ∈ place key value entries) : entry = (key, value) ∨ entry ∈ entries := by
  induction entries with
  | nil => simpa [place] using member
  | cons first rest ih =>
    obtain ⟨other, kept⟩ := first
    unfold place at member
    split at member
    · simpa using member
    · split at member
      · rcases List.mem_cons.1 member with same | later
        · exact .inl same
        · exact .inr (List.mem_cons_of_mem _ later)
      · rcases List.mem_cons.1 member with same | later
        · exact .inr (same ▸ List.mem_cons_self)
        · exact (ih later).imp_right (List.mem_cons_of_mem _)

theorem ascending_place (key : String) (value : α) {entries : List (String × α)}
    (ascending : entries.Pairwise (fun left right => left.1 < right.1)) :
    (place key value entries).Pairwise (fun left right => left.1 < right.1) := by
  induction entries with
  | nil => exact List.pairwise_singleton _ _
  | cons first rest ih =>
    obtain ⟨other, kept⟩ := first
    have ⟨above, later⟩ := List.pairwise_cons.1 ascending
    unfold place
    split
    · rename_i less
      refine List.pairwise_cons.2 ⟨fun entry member => ?_, ascending⟩
      rcases List.mem_cons.1 member with same | inRest
      · simpa [same] using less
      · exact String.lt_trans less (above entry inRest)
    · split
      · rename_i same
        exact List.pairwise_cons.2 ⟨fun entry member => same ▸ above entry member, later⟩
      · rename_i notLess differ
        refine List.pairwise_cons.2 ⟨fun entry member => ?_, ih later⟩
        rcases mem_place member with same | inRest
        · simpa [same] using Std.lt_of_le_of_ne (String.not_lt.1 notLess) (Ne.symm differ)
        · exact above entry inRest

def insert (table : Table α) (key : String) (value : α) : Table α :=
  ⟨place key value table.entries, ascending_place key value table.ascending⟩

def find? (table : Table α) (key : String) : Option α := seek key table.entries

def contains (table : Table α) (key : String) : Bool := (table.find? key).isSome

def alter (table : Table α) (key : String) (change : Option α → α) : Table α :=
  table.insert key (change (table.find? key))

def keys (table : Table α) : List String := table.entries.map (·.1)

def size (table : Table α) : Nat := table.entries.length

def filter (table : Table α) (test : String → α → Bool) : Table α :=
  ⟨table.entries.filter (fun entry => test entry.1 entry.2), table.ascending.filter _⟩

/-- Inserts the pairs in turn, so the last one of a key counts. -/
def ofList (pairs : List (String × α)) : Table α :=
  pairs.foldl (fun table pair => table.insert pair.1 pair.2) empty

@[ext] theorem ext {left right : Table α} (same : left.entries = right.entries) : left = right := by
  cases left; cases right; simpa using same

theorem seek_place (key other : String) (value : α) (entries : List (String × α)) :
    seek other (place key value entries) = if other = key then some value else seek other entries := by
  induction entries with
  | nil => rfl
  | cons first rest ih =>
    obtain ⟨name, kept⟩ := first
    unfold place
    split
    · rfl
    · split
      · rename_i same
        subst same
        by_cases same : other = key <;> simp [seek, same]
      · rename_i notLess differ
        by_cases same : other = name
        · have : name ≠ key := fun h => differ h.symm
          simp [seek, same, this]
        · simp [seek, same, ih]

theorem find?_insert (table : Table α) (key other : String) (value : α) :
    (table.insert key value).find? other = if other = key then some value else table.find? other :=
  seek_place key other value table.entries

@[simp] theorem find?_insert_self (table : Table α) (key : String) (value : α) :
    (table.insert key value).find? key = some value := by simp [find?_insert]

theorem find?_insert_of_ne (table : Table α) {key other : String} (differ : other ≠ key) (value : α) :
    (table.insert key value).find? other = table.find? other := by simp [find?_insert, differ]

@[simp] theorem find?_empty (key : String) : (empty : Table α).find? key = none := rfl

theorem seek_eq_none_of_lt {key : String} {entries : List (String × α)}
    (above : ∀ entry ∈ entries, key < entry.1) : seek key entries = none := by
  induction entries with
  | nil => rfl
  | cons first rest ih =>
    have less := above first List.mem_cons_self
    have differ : key ≠ first.1 := fun same => String.lt_irrefl _ (same ▸ less)
    unfold seek
    rw [if_neg differ]
    exact ih fun entry member => above entry (List.mem_cons_of_mem _ member)

theorem not_lt_of_seek {first other : String × α} {rest others : List (String × α)}
    (aboveOther : ∀ entry ∈ others, other.1 < entry.1)
    (same : seek first.1 (first :: rest) = seek first.1 (other :: others)) : ¬ first.1 < other.1 := by
  intro less
  have gone : seek first.1 (other :: others) = none := seek_eq_none_of_lt fun entry member => by
    rcases List.mem_cons.1 member with h | h
    · exact h ▸ less
    · exact String.lt_trans less (aboveOther entry h)
  rw [gone] at same
  simp [seek] at same

theorem eq_of_seek {left right : List (String × α)}
    (leftAscending : left.Pairwise (fun left right => left.1 < right.1))
    (rightAscending : right.Pairwise (fun left right => left.1 < right.1))
    (same : ∀ key, seek key left = seek key right) : left = right := by
  induction left generalizing right with
  | nil =>
    cases right with
    | nil => rfl
    | cons first rest => have := same first.1; simp [seek] at this
  | cons first rest ih =>
    cases right with
    | nil => have := same first.1; simp [seek] at this
    | cons other others =>
      have ⟨above, later⟩ := List.pairwise_cons.1 leftAscending
      have ⟨aboveOther, laterOther⟩ := List.pairwise_cons.1 rightAscending
      have keys : first.1 = other.1 := by
        have notBelow := not_lt_of_seek aboveOther (same first.1)
        have notAbove := not_lt_of_seek above (same other.1).symm
        exact String.le_antisymm (String.not_lt.1 notAbove) (String.not_lt.1 notBelow)
      have values : first.2 = other.2 := by
        have := same first.1
        simpa [seek, keys] using this
      have rests : rest = others := ih later laterOther fun key => by
        by_cases hit : key = first.1
        · rw [seek_eq_none_of_lt fun entry member => hit ▸ above entry member,
            seek_eq_none_of_lt fun entry member => (hit.trans keys) ▸ aboveOther entry member]
        · have := same key
          simpa [seek, hit, keys ▸ hit] using this
      rw [rests, Prod.ext keys values]

theorem ext_find? {left right : Table α} (same : ∀ key, left.find? key = right.find? key) :
    left = right :=
  ext (eq_of_seek left.ascending right.ascending same)

end Table
end CatalogIndex
