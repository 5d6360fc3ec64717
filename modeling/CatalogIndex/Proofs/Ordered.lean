import CatalogIndex.Catalog
import Mathlib.Data.List.Induction
/-!
A catalog as a map in the order of its ids. Halving finds where an id belongs, so an upsert either replaces one item of
its id or opens a place between smaller and larger ones. Both keep the order; where no id is stored twice, the items
are those of the map that the first items and the upserts write one after another.
-/
namespace CatalogIndex

def Item.writeTo (item : Item) (map : Int64 → Option Item) : Int64 → Option Item :=
  fun id => if id = item.id then some item else map id

def Item.mapOf (items : List Item) : Int64 → Option Item := items.foldl (fun map item => item.writeTo map) fun _ => none

abbrev Item.Ordered (items : List Item) : Prop := items.Pairwise fun left right => left.id ≤ right.id

abbrev Item.Distinct (items : List Item) : Prop := items.Pairwise fun left right => left.id < right.id

namespace Item

theorem mapOf_append_single (items : List Item) (item : Item) :
    mapOf (items ++ [item]) = item.writeTo (mapOf items) := List.foldl_append

theorem mapOf_eq_some {items : List Item} (apart : (items.map Item.id).Nodup) (id : Int64) (item : Item) :
    mapOf items id = some item ↔ item ∈ items ∧ item.id = id := by
  induction items using List.reverseRecOn with
  | nil => simp [mapOf]
  | append_singleton items last ih =>
    rw [List.map_append, List.nodup_append] at apart
    obtain ⟨apart, -, others⟩ := apart
    rw [mapOf_append_single, writeTo, List.mem_append, List.mem_singleton]
    by_cases same : id = last.id
    · rw [if_pos same, Option.some_inj]
      constructor
      · rintro rfl
        exact ⟨.inr rfl, same.symm⟩
      · rintro ⟨earlier | rfl, isId⟩
        · exact absurd (isId.trans same) (others _ (List.mem_map_of_mem earlier) _ (List.mem_singleton_self _))
        · rfl
    · rw [if_neg same, ih apart]
      constructor
      · rintro ⟨earlier, isId⟩
        exact ⟨.inl earlier, isId⟩
      · rintro ⟨earlier | rfl, isId⟩
        · exact ⟨earlier, isId⟩
        · exact absurd isId.symm same

end Item

namespace Catalog

open Item (Ordered Distinct)

variable {items before after : List Item} {item old other : Item} {id : Int64}

theorem Ordered.le_of_getElem? (ordered : Ordered items) {first last : Nat} (above : first ≤ last)
    (found : items[first]? = some old) (later : items[last]? = some other) : old.id ≤ other.id := by
  obtain ⟨within, rfl⟩ := List.getElem?_eq_some_iff.1 found
  obtain ⟨bound, rfl⟩ := List.getElem?_eq_some_iff.1 later
  rcases Nat.eq_or_lt_of_le above with rfl | below
  · exact Int64.le_refl _
  · exact List.pairwise_iff_getElem.1 ordered _ _ within bound below

/-- A stretch of items that may hold the last item with at most an id: behind it all ids are larger, and so they are in
all of it only if it begins with the very first item. -/
structure Encloses (items : List Item) (id : Int64) (first count : Nat) : Prop where
  within : first + count ≤ items.length
  above : ∀ position other, first + count ≤ position → items[position]? = some other → id < other.id
  below : first = 0 ∨ ∃ other, items[first]? = some other ∧ other.id ≤ id

theorem encloses_halve (ordered : Ordered items) {first count : Nat} (positive : 0 < count)
    (encloses : Encloses items id first count) : Encloses items id (halve items id first count) 1 := by
  -- The half that is left out lies behind the id, or in front of an item that is no larger.
  fun_induction halve items id first count with
  | case1 first count single =>
    obtain rfl : count = 1 := by omega
    exact encloses
  | case2 first count several middle larger ih =>
    obtain ⟨other, found, less⟩ := (Option.any_eq_true _ _).1 larger
    have less : id < other.id := of_decide_eq_true less
    apply ih (by omega)
    refine ⟨by have := encloses.within; omega, fun position later beyond lies => ?_, encloses.below⟩
    have reached : middle ≤ position := by omega
    exact Int64.lt_of_lt_of_le less (Ordered.le_of_getElem? ordered reached found lies)
  | case3 first count several middle larger ih =>
    have bound : middle < items.length := by have := encloses.within; omega
    have found := List.getElem?_eq_getElem bound
    have notLess : items[middle].id ≤ id := by
      rw [found, Option.any_some] at larger
      exact Int64.not_lt.1 (of_decide_eq_false (Bool.eq_false_iff.2 larger))
    apply ih (by omega)
    refine ⟨by have := encloses.within; omega, fun position later beyond lies => ?_, .inr ⟨_, found, notLess⟩⟩
    exact encloses.above position later (by omega) lies

inductive Seeks (id : Int64) : List Item → Spot → Prop where
  | taken {before after : List Item} {old : Item} (same : old.id = id)
      (above : ∀ later ∈ after, id < later.id) : Seeks id (before ++ old :: after) (.taken before.length)
  | free {before after : List Item} (below : ∀ earlier ∈ before, earlier.id < id)
      (above : ∀ later ∈ after, id < later.id) : Seeks id (before ++ after) (.free before.length)

theorem Encloses.parts {position : Nat} (encloses : Encloses items id position 1) :
    ∃ before old after, items = before ++ old :: after ∧ position = before.length ∧ ∀ later ∈ after, id < later.id := by
  have bound : position < items.length := encloses.within
  refine ⟨items.take position, items[position], items.drop (position + 1), by simp, by simp; omega, ?_⟩
  intro later member
  obtain ⟨index, found⟩ := List.mem_iff_getElem?.1 member
  rw [List.getElem?_drop] at found
  exact encloses.above (position + 1 + index) later (by omega) found

/-- An item with a larger id is left over only where the search has ended with the very first one. -/
theorem Encloses.eq_nil (encloses : Encloses (before ++ old :: after) id before.length 1) (larger : id < old.id) :
    before = [] := by
  rcases encloses.below with empty | ⟨found, same, least⟩
  · exact List.length_eq_zero_iff.1 empty
  · rw [List.getElem?_append_right (Nat.le_refl _), Nat.sub_self, List.getElem?_cons_zero, Option.some_inj] at same
    exact absurd least (same ▸ Int64.not_le.2 larger)

theorem encloses_all (ordered : Ordered items) (nonempty : items ≠ []) (id : Int64) :
    Encloses items id (halve items id 0 items.length) 1 := by
  refine encloses_halve ordered (List.length_pos_iff.2 nonempty) ⟨by omega, fun position other beyond found => ?_, .inl rfl⟩
  rw [List.getElem?_eq_none (by omega)] at found
  cases found

theorem seeks_seek (ordered : Ordered items) (id : Int64) : Seeks id items (seek items id) := by
  unfold seek
  rcases eq_or_ne items [] with rfl | nonempty
  · unfold halve
    exact @Seeks.free id [] [] (List.forall_mem_nil _) (List.forall_mem_nil _)
  have encloses := encloses_all ordered nonempty id
  generalize halve items id 0 items.length = position at encloses ⊢
  obtain ⟨before, old, after, rfl, rfl, above⟩ := encloses.parts
  obtain ⟨-, -, smaller⟩ := List.pairwise_append.1 ordered
  simp only [List.getElem?_append_right, Nat.le_refl, Nat.sub_self, List.getElem?_cons_zero]
  split
  · rename_i same
    exact .taken same above
  · rename_i differ
    split
    · rename_i less
      have below : ∀ earlier ∈ before ++ [old], earlier.id < id := by
        intro earlier member
        rcases List.mem_append.1 member with member | member
        · exact Int64.lt_of_le_of_lt (smaller earlier member old List.mem_cons_self) less
        · rw [List.mem_singleton.1 member]
          exact less
      have seeks := Seeks.free below above
      rwa [List.append_assoc, List.singleton_append, List.length_append, List.length_singleton] at seeks
    · rename_i notLess
      have larger : id < old.id := Int64.lt_of_le_of_ne (Int64.not_lt.1 notLess) (Ne.symm differ)
      obtain rfl := encloses.eq_nil larger
      exact @Seeks.free id [] (old :: after) (List.forall_mem_nil _) (List.forall_mem_cons.2 ⟨larger, above⟩)

/-- Of several items of one id the last one is found. -/
example : seek [.new 1, .new 3, .new 3, .new 5] 3 = .taken 2 := by decide +kernel

theorem set_of_taken : (before ++ old :: after).set before.length item = before ++ item :: after := by
  rw [List.set_append_right _ _ (Nat.le_refl _), Nat.sub_self, List.set_cons_zero]

theorem insertIdx_of_free : (before ++ after).insertIdx before.length item = before ++ item :: after := by
  induction before with
  | nil => rfl
  | cons first rest ih => exact congrArg (List.cons first) ih

inductive Upserts (item : Item) : List Item → List Item → Prop where
  | replaced {before after : List Item} {old : Item} (same : old.id = item.id)
      (above : ∀ later ∈ after, item.id < later.id) : Upserts item (before ++ old :: after) (before ++ item :: after)
  | inserted {before after : List Item} (below : ∀ earlier ∈ before, earlier.id < item.id)
      (above : ∀ later ∈ after, item.id < later.id) : Upserts item (before ++ after) (before ++ item :: after)

theorem upserts_upsert {catalog : Catalog} (ordered : Ordered catalog.items) (item : Item) :
    Upserts item catalog.items (catalog.upsert item).items := by
  obtain ⟨items⟩ := catalog
  have seeks : Seeks item.id items (seek items item.id) := seeks_seek ordered item.id
  unfold upsert
  dsimp only
  generalize seek items item.id = spot at seeks ⊢
  cases seeks with
  | taken same above =>
    dsimp only
    rw [set_of_taken]
    exact .replaced same above
  | free below above =>
    dsimp only
    rw [insertIdx_of_free]
    exact .inserted below above

theorem without : (before ++ after).Sublist (before ++ old :: after) := List.sublist_cons_self old after |>.append_left before

theorem ordered_between (ordered : Ordered (before ++ after)) (below : ∀ earlier ∈ before, earlier.id ≤ item.id)
    (above : ∀ later ∈ after, item.id < later.id) : Ordered (before ++ item :: after) := by
  obtain ⟨first, second, across⟩ := List.pairwise_append.1 ordered
  refine List.pairwise_append.2 ⟨first, List.pairwise_cons.2 ⟨fun later member => ?_, second⟩, ?_⟩
  · exact Int64.le_of_lt (above later member)
  · intro earlier member
    exact List.forall_mem_cons.2 ⟨below earlier member, across earlier member⟩

theorem Upserts.ordered {result : List Item} (ordered : Ordered items) (upserts : Upserts item items result) :
    Ordered result := by
  cases upserts with
  | @replaced before after old same above =>
    obtain ⟨-, -, across⟩ := List.pairwise_append.1 ordered
    have below : ∀ earlier ∈ before, earlier.id ≤ item.id := fun earlier member =>
      same ▸ across earlier member old List.mem_cons_self
    exact ordered_between (ordered.sublist without) below above
  | inserted below above =>
    exact ordered_between ordered (fun earlier member => Int64.le_of_lt (below earlier member)) above

structure Holds (items : List Item) (map : Int64 → Option Item) : Prop where
  distinct : Distinct items
  members : ∀ item, item ∈ items ↔ map item.id = some item

theorem holds_between {map : Int64 → Option Item} (below : ∀ earlier ∈ before, earlier.id < item.id)
    (above : ∀ later ∈ after, item.id < later.id) (distinct : Distinct (before ++ after))
    (kept : ∀ other, other.id ≠ item.id → (other ∈ before ++ after ↔ map other.id = some other)) :
    Holds (before ++ item :: after) (item.writeTo map) := by
  obtain ⟨first, second, across⟩ := List.pairwise_append.1 distinct
  refine ⟨List.pairwise_append.2 ⟨first, List.pairwise_cons.2 ⟨above, second⟩, fun earlier member => ?_⟩, fun other => ?_⟩
  · exact List.forall_mem_cons.2 ⟨below earlier member, across earlier member⟩
  rw [List.mem_append, List.mem_cons, or_left_comm, ← List.mem_append, Item.writeTo]
  by_cases same : other.id = item.id
  · rw [if_pos same, Option.some_inj, eq_comm (a := item)]
    refine or_iff_left fun member => ?_
    rcases List.mem_append.1 member with earlier | later
    · exact Int64.lt_irrefl (same ▸ below other earlier)
    · exact Int64.lt_irrefl (same ▸ above other later)
  · rw [if_neg same, or_iff_right fun isItem => same (congrArg Item.id isItem)]
    exact kept other same

theorem Upserts.holds {result : List Item} {map : Int64 → Option Item} (holds : Holds items map)
    (upserts : Upserts item items result) : Holds result (item.writeTo map) := by
  obtain ⟨distinct, members⟩ := holds
  cases upserts with
  | @replaced before after old same above =>
    obtain ⟨-, -, across⟩ := List.pairwise_append.1 distinct
    have below : ∀ earlier ∈ before, earlier.id < item.id := fun earlier member =>
      same ▸ across earlier member old List.mem_cons_self
    refine holds_between below above (distinct.sublist without) fun other differ => ?_
    have isOther : other ≠ old := fun isOld => differ (isOld ▸ same)
    rw [← members, List.mem_append, List.mem_append, List.mem_cons, or_iff_right isOther]
  | inserted below above =>
    exact holds_between below above distinct fun other _ => members other

theorem le_trans_id (first second third : Item) (left : decide (first.id ≤ second.id) = true)
    (right : decide (second.id ≤ third.id) = true) : decide (first.id ≤ third.id) = true :=
  decide_eq_true (Int64.le_trans (of_decide_eq_true left) (of_decide_eq_true right))

theorem le_total_id (first second : Item) : (decide (first.id ≤ second.id) || decide (second.id ≤ first.id)) = true := by
  rw [Bool.or_eq_true, decide_eq_true_eq, decide_eq_true_eq]
  exact Int64.le_total _ _

theorem ordered_ofItems (initial : List Item) : Ordered (ofItems initial).items := by
  have ordered := List.pairwise_mergeSort le_trans_id le_total_id initial
  exact ordered.imp of_decide_eq_true

theorem filter_ofItems (initial : List Item) (id : Int64) :
    (ofItems initial).items.filter (·.id = id) = initial.filter (·.id = id) := by
  have sorted : (initial.filter (·.id = id)).Pairwise fun left right => decide (left.id ≤ right.id) = true := by
    refine List.pairwise_of_forall_mem_list fun left member right belongs => ?_
    have same : left.id = id := of_decide_eq_true (List.mem_filter.1 member).2
    have other : right.id = id := of_decide_eq_true (List.mem_filter.1 belongs).2
    exact decide_eq_true (same.trans other.symm ▸ Int64.le_refl _)
  have within := List.sublist_mergeSort le_trans_id le_total_id sorted List.filter_sublist
  have kept := within.filter fun item => decide (item.id = id)
  simp only [List.filter_filter, Bool.and_self] at kept
  have count : ((ofItems initial).items.filter (·.id = id)).length = (initial.filter (·.id = id)).length :=
    ((List.mergeSort_perm initial _).filter _).length_eq
  exact (kept.eq_of_length count.symm).symm

theorem holds_ofItems {initial : List Item} (apart : (initial.map Item.id).Nodup) :
    Holds (ofItems initial).items (Item.mapOf initial) := by
  have perm := List.mergeSort_perm initial fun left right => decide (left.id ≤ right.id)
  refine ⟨?_, fun item => ?_⟩
  · have differ : (ofItems initial).items.Pairwise fun left right => left.id ≠ right.id :=
      List.pairwise_map.1 ((perm.map Item.id).nodup_iff.2 apart)
    exact (ordered_ofItems initial).imp₂ (fun _ _ => Int64.lt_of_le_of_ne) differ
  · rw [Item.mapOf_eq_some apart, and_iff_left rfl]
    exact perm.mem_iff

def afterAll (catalog : Catalog) (upserts : List Item) : Catalog := upserts.foldl upsert catalog

theorem ordered_afterAll {catalog : Catalog} (ordered : Ordered catalog.items) (upserts : List Item) :
    Ordered (catalog.afterAll upserts).items := by
  induction upserts generalizing catalog with
  | nil => exact ordered
  | cons item rest ih => exact ih ((upserts_upsert ordered item).ordered ordered)

theorem holds_afterAll {catalog : Catalog} {map : Int64 → Option Item} (holds : Holds catalog.items map)
    (upserts : List Item) :
    Holds (catalog.afterAll upserts).items (upserts.foldl (fun map item => item.writeTo map) map) := by
  induction upserts generalizing catalog map with
  | nil => exact holds
  | cons item rest ih =>
    have ordered : Ordered catalog.items := holds.distinct.imp fun less => Int64.le_of_lt less
    exact ih ((upserts_upsert ordered item).holds holds)

/-- A catalog is a map in the order of the ids. After any upserts its items are ordered, and another upsert of an id that
is stored replaces exactly one item of it. If the ids of the first items were all different, the ids are so after every
upsert, and the items are those of the map that all of them write. If not, the first items of one id stand in the order
in which they were given. -/
theorem map_in_order (initial upserts : List Item) :
    Ordered ((ofItems initial).afterAll upserts).items ∧
      ((initial.map Item.id).Nodup →
        Distinct ((ofItems initial).afterAll upserts).items ∧
        ∀ item, item ∈ ((ofItems initial).afterAll upserts).items ↔
          Item.mapOf (initial ++ upserts) item.id = some item) ∧
      ((ofItems initial).items.Perm initial ∧
        ∀ id, (ofItems initial).items.filter (·.id = id) = initial.filter (·.id = id)) ∧
      ∀ item, item.id ∈ ((ofItems initial).afterAll upserts).items.map Item.id →
        ∃ before old after, ((ofItems initial).afterAll upserts).items = before ++ old :: after ∧ old.id = item.id ∧
          (((ofItems initial).afterAll upserts).upsert item).items = before ++ item :: after := by
  have ordered := ordered_afterAll (ordered_ofItems initial) upserts
  refine ⟨ordered, fun apart => ?_, ⟨List.mergeSort_perm _ _, filter_ofItems initial⟩, fun item stored => ?_⟩
  · have holds := holds_afterAll (holds_ofItems apart) upserts
    rw [Item.mapOf, ← List.foldl_append] at holds
    exact ⟨holds.distinct, holds.members⟩
  · generalize (ofItems initial).afterAll upserts = catalog at *
    have upserts := upserts_upsert ordered item
    generalize catalog.items = items, (catalog.upsert item).items = result at *
    cases upserts with
    | replaced same above => exact ⟨_, _, _, rfl, same, rfl⟩
    | inserted below above =>
      obtain ⟨other, member, same⟩ := List.mem_map.1 stored
      rcases List.mem_append.1 member with earlier | later
      · exact absurd (same ▸ below other earlier) Int64.lt_irrefl
      · exact absurd (same ▸ above other later) Int64.lt_irrefl

end Catalog

namespace Trial

def newcomers : List Item := [.new 5, .new 1, .new 3]

def priced : Item := { Item.new 3 with attributes := .insert .empty "price" (.value (.integer 7)) }

end Trial

namespace Catalog

open Item (Distinct)

theorem map_in_order_trial :
    (Trial.newcomers.map Item.id).Nodup ∧
      Distinct ((ofItems Trial.newcomers).afterAll [.new 4, Trial.priced]).items ∧
      Trial.priced ∈ ((ofItems Trial.newcomers).afterAll [.new 4, Trial.priced]).items ∧
      Item.new 3 ∉ ((ofItems Trial.newcomers).afterAll [.new 4, Trial.priced]).items := by
  have apart : (Trial.newcomers.map Item.id).Nodup := by decide
  obtain ⟨-, asMap, -, -⟩ := map_in_order Trial.newcomers [.new 4, Trial.priced]
  obtain ⟨distinct, members⟩ := asMap apart
  refine ⟨apart, distinct, (members _).2 rfl, fun kept => ?_⟩
  have same : some Trial.priced = some (Item.new 3) := (members _).1 kept
  exact absurd (congrArg (fun item => item.attributes.size) (Option.some.inj same)) (by decide)

end Catalog
end CatalogIndex
