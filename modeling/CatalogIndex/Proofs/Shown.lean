import CatalogIndex.Attribute
import CatalogIndex.Document
import CatalogIndex.Proofs.Stamps
/-!
Values, attributes and documents as their JSON shows them. A text that reads as an instant comes back as that instant,
a number that is not finite comes back as nothing, and everything else comes back as it was.
-/
namespace CatalogIndex

namespace Value

def isFinite : Value → Bool
  | decimal x => x.isFinite
  | _ => true

theorem all_isFinite {values : List Value} :
    values.all isFinite = true ↔ ∀ x, .decimal x ∈ values → x.isFinite = true := by
  rw [List.all_eq_true]
  refine ⟨fun all x member => all _ member, fun finite value member => ?_⟩
  cases value with
  | decimal x => exact finite x member
  | _ => rfl

theorem not_all_isFinite {values : List Value} {x : Binary64} (member : .decimal x ∈ values)
    (infinite : x.isFinite = false) : ¬ values.all isFinite = true := by
  intro all
  have finite := all_isFinite.1 all x member
  rw [infinite] at finite
  cases finite

def shown : Value → Value
  | text source => ((Stamp.ofText? source).map date).getD (text source)
  | value => value

/-- Whether a value is no decimal that is not finite, and no text that reads as an instant. -/
def Kept : Value → Prop
  | decimal x => x.isFinite = true
  | text source => Stamp.ofText? source = none
  | _ => True

theorem ofJson?_toJson (value : Value) :
    ofJson? value.toJson = if value.isFinite then some value.shown else none := by
  cases value with
  | boolean value => rfl
  | integer n =>
    have fits : fitsInteger n.toInt = true := by
      simp only [fitsInteger, Bool.and_eq_true, decide_eq_true_eq]
      exact ⟨n.minValue_le_toInt, n.toInt_le⟩
    simp only [toJson, ofJson?, fits, if_true, Int64.ofInt_toInt, isFinite, shown]
  | decimal x =>
    cases finite : x.isFinite <;> simp [toJson, ofJson?, finite, isFinite, shown]
  | date instant =>
    simp only [toJson, ofJson?, Stamp.ofText?_encode, isFinite, shown, if_true]
  | text source =>
    simp only [toJson, ofJson?, isFinite, shown, if_true]
    cases Stamp.ofText? source <;> rfl

theorem Kept.isFinite {value : Value} (kept : value.Kept) : value.isFinite = true := by
  cases value with
  | decimal x => exact kept
  | _ => rfl

theorem Kept.shown {value : Value} (kept : value.Kept) : value.shown = value := by
  cases value with
  | text source =>
    have none : Stamp.ofText? source = .none := kept
    simp only [Value.shown, none]
    rfl
  | _ => rfl

/-- What comes back equals the value, as values see it, exactly if the value is kept. -/
theorem same_shown {value : Value} (finite : value.isFinite = true) : value.shown.same value = true ↔ value.Kept := by
  cases value with
  | decimal x =>
    have field : (x.exponentField == 2047) = false := by
      simpa [Value.isFinite, Binary64.isFinite] using finite
    have notNaN : x.isNaN = false := by
      unfold Binary64.isNaN
      rw [field]
      rfl
    have same : x.same x = true := by simp [Binary64.same, notNaN]
    exact iff_of_true same finite
  | text source =>
    cases read : Stamp.ofText? source with
    | none => exact iff_of_true (by simp [Value.shown, read, same]) read
    | some instant => exact iff_of_false (by simp [Value.shown, read, same]) (by simp [Kept, read])
  | _ => exact iff_of_true (by simp [Value.shown, same]) trivial

theorem kept_of_ofJson? {tree : Json} {value : Value} (finite : ∀ x, tree = .decimal x → x.isFinite = true)
    (fits : ∀ n, tree = .integer n → (Binary64.ofInt n).isFinite = true) (reads : ofJson? tree = some value) :
    value.Kept := by
  cases tree with
  | bool value =>
    cases reads
    trivial
  | integer n =>
    simp only [ofJson?] at reads
    split at reads
    · cases reads
      trivial
    · cases reads
      exact fits n rfl
  | decimal x =>
    cases reads
    exact finite x rfl
  | text source =>
    simp only [ofJson?] at reads
    split at reads
    · cases reads
      trivial
    · rename_i none
      cases reads
      exact none
  | _ => cases reads

end Value

/-! ### Tables -/

namespace Table

variable {α β : Type}

theorem place_of_above {key : String} {value : α} {entries : List (String × α)}
    (above : ∀ entry ∈ entries, entry.1 < key) : place key value entries = entries ++ [(key, value)] := by
  induction entries with
  | nil => rfl
  | cons first rest ih =>
    obtain ⟨other, kept⟩ := first
    obtain ⟨less, later⟩ := List.forall_mem_cons.1 above
    have notLess : ¬ key < other := fun greater => String.lt_irrefl _ (String.lt_trans less greater)
    have differ : key ≠ other := fun same => String.lt_irrefl _ (same ▸ less)
    unfold place
    rw [if_neg notLess, if_neg differ, ih later]
    rfl

theorem entries_foldl_insert {table : Table α} {pairs : List (String × α)}
    (ascending : (table.entries ++ pairs).Pairwise fun left right => left.1 < right.1) :
    (pairs.foldl (fun table pair => table.insert pair.1 pair.2) table).entries = table.entries ++ pairs := by
  induction pairs generalizing table with
  | nil => exact (List.append_nil _).symm
  | cons pair pairs ih =>
    have above : ∀ entry ∈ table.entries, entry.1 < pair.1 := fun entry member =>
      (List.pairwise_append.1 ascending).2.2 entry member pair List.mem_cons_self
    have entries : (table.insert pair.1 pair.2).entries = table.entries ++ [pair] := place_of_above above
    rw [List.foldl_cons, ih, entries, List.append_assoc]
    · rfl
    · rw [entries, List.append_assoc]
      exact ascending

theorem entries_ofList {pairs : List (String × α)} (ascending : pairs.Pairwise fun left right => left.1 < right.1) :
    (ofList pairs).entries = pairs :=
  entries_foldl_insert ascending

theorem mem_of_mem_foldl_insert {table : Table α} {pairs : List (String × α)} {entry : String × α}
    (member : entry ∈ (pairs.foldl (fun table pair => table.insert pair.1 pair.2) table).entries) :
    entry ∈ table.entries ∨ entry ∈ pairs := by
  induction pairs generalizing table with
  | nil => exact .inl member
  | cons pair pairs ih =>
    rcases ih member with early | late
    · rcases mem_place early with rfl | before
      · exact .inr List.mem_cons_self
      · exact .inl before
    · exact .inr (List.mem_cons_of_mem _ late)

theorem mem_of_mem_ofList {pairs : List (String × α)} {entry : String × α} (member : entry ∈ (ofList pairs).entries) :
    entry ∈ pairs :=
  (mem_of_mem_foldl_insert member).resolve_left List.not_mem_nil

def map (change : α → β) (table : Table α) : Table β :=
  ⟨table.entries.map fun entry => (entry.1, change entry.2), List.pairwise_map.2 table.ascending⟩

theorem ofList_map (change : α → β) (table : Table α) :
    ofList (table.entries.map fun entry => (entry.1, change entry.2)) = table.map change :=
  Table.ext (entries_ofList (table.map change).ascending)

end Table

/-! ### Attributes -/

namespace Attribute

mutual

def leaves : Attribute → List Value
  | value scalar => [scalar]
  | list items => leavesOfItems items
  | object members => leavesOfMembers members

def leavesOfItems : List Attribute → List Value
  | [] => []
  | item :: rest => leaves item ++ leavesOfItems rest

def leavesOfMembers : List (String × Attribute) → List Value
  | [] => []
  | (_, item) :: rest => leaves item ++ leavesOfMembers rest

end

mutual

def shown : Attribute → Attribute
  | value scalar => value scalar.shown
  | list items => list (shownItems items)
  | object members => object (shownMembers members)

def shownItems : List Attribute → List Attribute
  | [] => []
  | item :: rest => shown item :: shownItems rest

def shownMembers : List (String × Attribute) → List (String × Attribute)
  | [] => []
  | (name, item) :: rest => (name, shown item) :: shownMembers rest

end

theorem names_shownMembers (members : List (String × Attribute)) :
    (shownMembers members).map (·.1) = members.map (·.1) := by
  induction members with
  | nil => rfl
  | cons member rest ih =>
    rw [shownMembers, List.map_cons, List.map_cons, ih]

theorem ascending_shownMembers {members : List (String × Attribute)}
    (ascending : members.Pairwise fun left right => left.1 < right.1) :
    (shownMembers members).Pairwise fun left right => left.1 < right.1 := by
  have names : (members.map (·.1)).Pairwise (· < ·) := List.pairwise_map.2 ascending
  rw [← names_shownMembers] at names
  exact List.pairwise_map.1 names

theorem ofJson?_scalar (scalar : Value) : ofJson? scalar.toJson = (Value.ofJson? scalar.toJson).map value := by
  cases scalar with
  | decimal x => cases finite : x.isFinite <;> simp [Value.toJson, finite, ofJson?]
  | _ => rfl

mutual

/-- What comes back of a tree whose objects list their members by ascending name. -/
theorem ofJson?_toJson : ∀ tree : Attribute, tree.Ordered →
    ofJson? tree.toJson = if tree.leaves.all Value.isFinite then some tree.shown else none
  | value scalar, _ => by
    rw [toJson, ofJson?_scalar, Value.ofJson?_toJson, leaves, shown, List.all_cons, List.all_nil, Bool.and_true]
    cases scalar.isFinite <;> rfl
  | list items, ordered => by
    rw [toJson, ofJson?, ofJsonItems?_toJson items ordered, leaves, shown]
    cases (leavesOfItems items).all Value.isFinite <;> rfl
  | object members, ordered => by
    rw [toJson, ofJson?, ofJsonMembers?_toJson members ordered.2, leaves, shown]
    cases (leavesOfMembers members).all Value.isFinite with
    | false => rfl
    | true => exact congrArg some (congrArg object (Table.entries_ofList (ascending_shownMembers ordered.1)))

theorem ofJsonItems?_toJson : ∀ items : List Attribute, OrderedItems items →
    ofJsonItems? (toJsonItems items) =
      if (leavesOfItems items).all Value.isFinite then some (shownItems items) else none
  | [], _ => rfl
  | item :: rest, ordered => by
    rw [toJsonItems, ofJsonItems?, ofJson?_toJson item ordered.1, ofJsonItems?_toJson rest ordered.2, leavesOfItems,
      shownItems, List.all_append]
    cases item.leaves.all Value.isFinite <;> cases (leavesOfItems rest).all Value.isFinite <;> rfl

theorem ofJsonMembers?_toJson : ∀ members : List (String × Attribute), OrderedMembers members →
    ofJsonMembers? (toJsonMembers members) =
      if (leavesOfMembers members).all Value.isFinite then some (shownMembers members) else none
  | [], _ => rfl
  | (name, item) :: rest, ordered => by
    rw [toJsonMembers, ofJsonMembers?, ofJson?_toJson item ordered.1, ofJsonMembers?_toJson rest ordered.2,
      leavesOfMembers, shownMembers, List.all_append]
    cases item.leaves.all Value.isFinite <;> cases (leavesOfMembers rest).all Value.isFinite <;> rfl

end

/-! ### Trees that are kept -/

mutual

theorem shown_of_kept : ∀ tree : Attribute, (∀ leaf ∈ tree.leaves, leaf.Kept) → tree.shown = tree
  | value scalar, kept => by rw [shown, (List.forall_mem_singleton.1 kept).shown]
  | list items, kept => by rw [shown, shownItems_of_kept items kept]
  | object members, kept => by rw [shown, shownMembers_of_kept members kept]

theorem shownItems_of_kept : ∀ items : List Attribute, (∀ leaf ∈ leavesOfItems items, leaf.Kept) →
    shownItems items = items
  | [], _ => rfl
  | item :: rest, kept => by
    obtain ⟨itemKept, restKept⟩ := List.forall_mem_append.1 kept
    rw [shownItems, shown_of_kept item itemKept, shownItems_of_kept rest restKept]

theorem shownMembers_of_kept : ∀ members : List (String × Attribute), (∀ leaf ∈ leavesOfMembers members, leaf.Kept) →
    shownMembers members = members
  | [], _ => rfl
  | (name, item) :: rest, kept => by
    obtain ⟨itemKept, restKept⟩ := List.forall_mem_append.1 kept
    rw [shownMembers, shown_of_kept item itemKept, shownMembers_of_kept rest restKept]

end

mutual

theorem same_shown : ∀ tree : Attribute, tree.leaves.all Value.isFinite = true →
    (tree.shown.same tree = true ↔ ∀ leaf ∈ tree.leaves, leaf.Kept)
  | value _, finite => by
    rw [shown, same, Value.same_shown (List.all_eq_true.1 finite _ List.mem_cons_self), leaves,
      List.forall_mem_singleton]
  | list items, finite => sameItems_shown items finite
  | object members, finite => sameMembers_shown members finite

theorem sameItems_shown : ∀ items : List Attribute, (leavesOfItems items).all Value.isFinite = true →
    (sameItems (shownItems items) items = true ↔ ∀ leaf ∈ leavesOfItems items, leaf.Kept)
  | [], _ => iff_of_true rfl (List.forall_mem_nil _)
  | item :: rest, finite => by
    rw [leavesOfItems, List.all_append, Bool.and_eq_true] at finite
    rw [shownItems, sameItems, Bool.and_eq_true, same_shown item finite.1, sameItems_shown rest finite.2,
      leavesOfItems, List.forall_mem_append]

theorem sameMembers_shown : ∀ members : List (String × Attribute),
    (leavesOfMembers members).all Value.isFinite = true →
    (sameMembers (shownMembers members) members = true ↔ ∀ leaf ∈ leavesOfMembers members, leaf.Kept)
  | [], _ => iff_of_true rfl (List.forall_mem_nil _)
  | (name, item) :: rest, finite => by
    rw [leavesOfMembers, List.all_append, Bool.and_eq_true] at finite
    rw [shownMembers, sameMembers, beq_self_eq_true, Bool.true_and, Bool.and_eq_true, same_shown item finite.1,
      sameMembers_shown rest finite.2, leavesOfMembers, List.forall_mem_append]

end

end Attribute

/-! ### Documents -/

namespace Document

def leaves (document : Document) : List Value := document.fields.entries.flatMap (·.2)

def shown (document : Document) : Document := ⟨document.fields.map fun values => values.map Value.shown⟩

theorem shownValues_of_kept {values : List Value} (kept : ∀ value ∈ values, value.Kept) :
    values.map Value.shown = values := by
  rw [List.map_congr_left fun value member => (kept value member).shown, List.map_id']

theorem shown_of_kept {document : Document} (kept : ∀ leaf ∈ document.leaves, leaf.Kept) :
    document.shown = document := by
  have entries : document.fields.entries.map (fun entry => (entry.1, entry.2.map Value.shown)) =
      document.fields.entries := by
    rw [← List.map_id document.fields.entries, List.map_map]
    refine List.map_congr_left fun entry member => ?_
    have entryKept : ∀ value ∈ entry.2, value.Kept := fun value inEntry =>
      kept value (List.mem_flatMap.2 ⟨entry, member, inEntry⟩)
    exact Prod.ext rfl (shownValues_of_kept entryKept)
  exact congrArg Document.mk (Table.ext entries)

theorem sameValues_shown {values : List Value} (finite : values.all Value.isFinite = true) :
    same.sameValues (values.map Value.shown) values = true ↔ ∀ value ∈ values, value.Kept := by
  induction values with
  | nil => exact iff_of_true rfl (List.forall_mem_nil _)
  | cons value rest ih =>
    rw [List.all_cons, Bool.and_eq_true] at finite
    rw [List.map_cons, same.sameValues, Bool.and_eq_true, Value.same_shown finite.1, ih finite.2, List.forall_mem_cons]

theorem sameEntries_shown {entries : List (String × List Value)}
    (finite : (entries.flatMap (·.2)).all Value.isFinite = true) :
    same.sameEntries (entries.map fun entry => (entry.1, entry.2.map Value.shown)) entries = true ↔
      ∀ value ∈ entries.flatMap (·.2), value.Kept := by
  induction entries with
  | nil => exact iff_of_true rfl (List.forall_mem_nil _)
  | cons entry rest ih =>
    rw [List.flatMap_cons, List.all_append, Bool.and_eq_true] at finite
    rw [List.map_cons, same.sameEntries, beq_self_eq_true, Bool.true_and, Bool.and_eq_true,
      sameValues_shown finite.1, ih finite.2, List.flatMap_cons, List.forall_mem_append]

theorem same_shown {document : Document} (finite : document.leaves.all Value.isFinite = true) :
    document.shown.same document = true ↔ ∀ leaf ∈ document.leaves, leaf.Kept :=
  sameEntries_shown finite

end Document
end CatalogIndex
