import CatalogIndex.Item
import Mathlib.Data.List.Basic
/-!
The closure of categories under their parents. It is a depth-first walk that visits nothing above a category that it
has seen. Where records of one id agree on their parents this loses nothing: the closure is the walk over every path
without its repetitions.
-/
namespace CatalogIndex

section

variable {α : Type} [BEq α] [LawfulBEq α]

theorem eraseDups_of_nodup {items : List α} (distinct : items.Nodup) : items.eraseDups = items := by
  induction items with
  | nil => rfl
  | cons item rest ih =>
    obtain ⟨absent, later⟩ := List.nodup_cons.1 distinct
    have kept : rest.filter (fun other => !other == item) = rest := by
      refine List.filter_eq_self.2 fun other member => ?_
      simpa using fun same : other = item => absent (same ▸ member)
    rw [List.eraseDups_cons, kept, ih later]

theorem eraseDups_filter (keep : α → Bool) (items : List α) :
    (items.filter keep).eraseDups = items.eraseDups.filter keep := by
  match items with
  | [] => rfl
  | item :: rest =>
    have ih := eraseDups_filter keep (rest.filter fun other => !other == item)
    rw [List.eraseDups_cons]
    by_cases kept : keep item
    · rw [List.filter_cons_of_pos kept, List.filter_cons_of_pos kept, List.eraseDups_cons, ← ih, List.filter_comm]
    · rw [List.filter_cons_of_neg kept, List.filter_cons_of_neg kept, ← ih, List.filter_filter]
      congr 1
      refine List.filter_congr fun other _ => ?_
      by_cases same : other = item
      · simp [same, kept]
      · simp [same]
termination_by items.length
decreasing_by exact Nat.lt_succ_of_le (List.length_filter_le _ _)

theorem eraseDups_append_of_subset {items later : List α} (distinct : items.Nodup) (known : later ⊆ items) :
    (items ++ later).eraseDups = items := by
  have nothing : later.removeAll items = [] := by
    refine List.filter_eq_nil_iff.2 fun item member => ?_
    simpa using known member
  rw [List.eraseDups_append, nothing, eraseDups_of_nodup distinct, List.eraseDups_nil, List.append_nil]

theorem nodup_eraseDups (items : List α) : items.eraseDups.Nodup := by
  match items with
  | [] => exact List.nodup_nil
  | item :: rest =>
    rw [List.eraseDups_cons]
    refine List.nodup_cons.2 ⟨fun again => ?_, nodup_eraseDups _⟩
    simpa using (List.mem_filter.1 (List.mem_eraseDups.1 again)).2
termination_by items.length
decreasing_by exact Nat.lt_succ_of_le (List.length_filter_le _ _)

theorem eraseDups_append_left (items later : List α) :
    (items.eraseDups ++ later).eraseDups = (items ++ later).eraseDups := by
  have sameKnown : later.removeAll items.eraseDups = later.removeAll items := by
    refine List.filter_congr fun item _ => ?_
    rw [Bool.eq_iff_iff]
    simp
  rw [List.eraseDups_append, List.eraseDups_append, eraseDups_of_nodup (nodup_eraseDups items), sameKnown]

theorem eraseDups_append_right (before items : List α) :
    (before ++ items.eraseDups).eraseDups = (before ++ items).eraseDups := by
  have selected : (items.eraseDups.removeAll before).eraseDups = (items.removeAll before).eraseDups := by
    unfold List.removeAll
    rw [eraseDups_filter, eraseDups_filter, eraseDups_of_nodup (nodup_eraseDups items)]
  rw [List.eraseDups_append, List.eraseDups_append, selected]

theorem eraseDups_flatMap {β : Type} (lists : β → List α) (items : List β) :
    (items.flatMap fun item => (lists item).eraseDups).eraseDups = (items.flatMap lists).eraseDups := by
  induction items with
  | nil => rfl
  | cons item rest ih =>
    rw [List.flatMap_cons, List.flatMap_cons, eraseDups_append_left, ← eraseDups_append_right, ih,
      eraseDups_append_right]

end

namespace Category

inductive Reaches : Category → Category → Prop where
  | here (category : Category) : Reaches category category
  | up {category parent upper : Category} (link : parent ∈ category.parents) (above : Reaches parent upper) :
      Reaches category upper

def Reached (roots : List Category) (category : Category) : Prop := ∃ root ∈ roots, root.Reaches category

mutual

/-- The records met on the way up, over every path and as often as they are met. -/
def lineage : Category → List Category
  | mk id name itemIds parents => mk id name itemIds parents :: lineageAll parents

def lineageAll : List Category → List Category
  | [] => []
  | category :: rest => category.lineage ++ lineageAll rest

end

theorem lineage_eq (category : Category) : category.lineage = category :: lineageAll category.parents := by
  cases category
  rfl

theorem walk_eq (category : Category) : category.walk = category.id :: walkAll category.parents := by
  cases category
  rfl

theorem collect_eq (seen : List Int64) (category : Category) :
    category.collect seen =
      if seen.contains category.id then seen else collectAll (seen ++ [category.id]) category.parents := by
  cases category
  rfl

@[elab_as_elim]
theorem parents_induction {motive : Category → Prop}
    (step : ∀ category : Category, (∀ parent ∈ category.parents, motive parent) → motive category)
    (category : Category) : motive category := by
  match category with
  | mk id name itemIds parents =>
    exact step _ fun parent member => parents_induction step parent
termination_by sizeOf category
decreasing_by
  have smaller := List.sizeOf_lt_of_mem member
  simp only [Category.parents] at smaller
  simp only [mk.sizeOf_spec]
  omega

theorem walkAll_eq (categories : List Category) : walkAll categories = categories.flatMap walk := by
  induction categories with
  | nil => rfl
  | cons category rest ih => rw [walkAll, ih, List.flatMap_cons]

theorem lineageAll_eq (categories : List Category) : lineageAll categories = categories.flatMap lineage := by
  induction categories with
  | nil => rfl
  | cons category rest ih => rw [lineageAll, ih, List.flatMap_cons]

theorem mem_lineage {category upper : Category} : upper ∈ category.lineage ↔ category.Reaches upper := by
  constructor
  · intro met
    induction category using parents_induction with
    | step category ih =>
      rw [lineage_eq, lineageAll_eq, List.mem_cons, List.mem_flatMap] at met
      obtain rfl | ⟨parent, link, above⟩ := met
      · exact .here _
      · exact .up link (ih parent link above)
  · intro reaches
    induction reaches with
    | here category =>
      rw [lineage_eq]
      exact List.mem_cons_self
    | up link above ih =>
      rw [lineage_eq, lineageAll_eq]
      exact List.mem_cons_of_mem _ (List.mem_flatMap.2 ⟨_, link, ih⟩)

theorem reached_iff {roots : List Category} {category : Category} :
    Reached roots category ↔ category ∈ lineageAll roots := by
  simp only [Reached, lineageAll_eq, List.mem_flatMap, mem_lineage]

theorem walk_eq_map (category : Category) : category.walk = category.lineage.map id := by
  induction category using parents_induction with
  | step category ih =>
    rw [walk_eq, lineage_eq, walkAll_eq, lineageAll_eq, List.map_cons, List.map_flatMap]
    exact congrArg (List.cons category.id) (List.flatMap_congr ih)

theorem mem_walk {category : Category} {found : Int64} :
    found ∈ category.walk ↔ ∃ upper, category.Reaches upper ∧ upper.id = found := by
  simp only [walk_eq_map, List.mem_map, mem_lineage]

theorem mem_walkAll {categories : List Category} {found : Int64} :
    found ∈ walkAll categories ↔ ∃ category, Reached categories category ∧ category.id = found := by
  simp only [walkAll_eq, List.mem_flatMap, mem_walk, Reached]
  constructor
  · rintro ⟨root, member, upper, reaches, shown⟩
    exact ⟨upper, ⟨root, member, reaches⟩, shown⟩
  · rintro ⟨upper, ⟨root, member, reaches⟩, shown⟩
    exact ⟨root, member, upper, reaches, shown⟩

theorem Reaches.trans {lower middle upper : Category} (first : Reaches lower middle) (second : Reaches middle upper) :
    Reaches lower upper := by
  induction first with
  | here category => exact second
  | up link above ih => exact .up link (ih second)

theorem walk_within_walkAll {categories : List Category} {category : Category} (member : category ∈ categories) :
    category.walk <:+: walkAll categories := by
  rw [walkAll_eq, List.flatMap_def]
  exact List.infix_of_mem_flatten (List.mem_map_of_mem member)

theorem walk_within {category upper : Category} (reaches : category.Reaches upper) : upper.walk <:+: category.walk := by
  induction reaches with
  | here category => exact List.infix_rfl
  | @up category parent upper link above ih =>
    have inWalk : walkAll category.parents <:+ category.walk := by
      rw [walk_eq]
      exact List.suffix_cons _ _
    exact ih.trans ((walk_within_walkAll link).trans inWalk.isInfix)

/-! ### What is seen, whatever the records -/

/-- Ids that have been collected on the way up: new ones follow those seen before, each once, and all were met. -/
structure Collects (seen met collected : List Int64) : Prop where
  before : seen ⊆ collected
  nodup : seen.Nodup → collected.Nodup
  among : ∀ found ∈ collected, found ∈ seen ∨ found ∈ met

theorem collects_refl (seen met : List Int64) : Collects seen met seen :=
  ⟨List.Subset.refl _, fun distinct => distinct, fun _ => .inl⟩

theorem Collects.append {seen first middle second last : List Int64} (collects : Collects seen first middle)
    (later : Collects middle second last) : Collects seen (first ++ second) last where
  before := List.Subset.trans collects.before later.before
  nodup distinct := later.nodup (collects.nodup distinct)
  among found collected := by
    obtain held | met := later.among found collected
    · exact (collects.among found held).imp_right (List.mem_append_left _)
    · exact .inr (List.mem_append_right _ met)

theorem collects_single {seen : List Int64} {found : Int64} (unseen : ¬seen.contains found) :
    Collects seen [found] (seen ++ [found]) where
  before := List.subset_append_left _ _
  nodup distinct := by
    rw [List.contains_iff_mem] at unseen
    refine List.nodup_append.2 ⟨distinct, List.pairwise_singleton _ _, fun one held other new same => ?_⟩
    rw [same, List.mem_singleton.1 new] at held
    exact unseen held
  among other collected := by simpa using collected

theorem collects_collectAll {categories : List Category}
    (each : ∀ category ∈ categories, ∀ seen, Collects seen category.walk (category.collect seen)) (seen : List Int64) :
    Collects seen (walkAll categories) (collectAll seen categories) := by
  induction categories generalizing seen with
  | nil => exact collects_refl _ _
  | cons category rest ih =>
    rw [walkAll, collectAll]
    exact (each category List.mem_cons_self seen).append
      (ih (fun other member => each other (List.mem_cons_of_mem _ member)) _)

theorem collects_collect (category : Category) (seen : List Int64) :
    Collects seen category.walk (category.collect seen) := by
  induction category using parents_induction generalizing seen with
  | step category ih =>
    rw [collect_eq, walk_eq]
    split
    · exact collects_refl _ _
    · rename_i unseen
      exact (collects_single unseen).append (collects_collectAll ih _)

theorem id_mem_collect (category : Category) (seen : List Int64) : category.id ∈ category.collect seen := by
  rw [collect_eq]
  split
  · rename_i known
    exact List.contains_iff_mem.1 known
  · exact (collects_collectAll (fun parent _ => collects_collect parent) _).before (by simp)

theorem ids_subset_collectAll (categories : List Category) (seen : List Int64) :
    categories.map id ⊆ collectAll seen categories := by
  induction categories generalizing seen with
  | nil => exact List.nil_subset _
  | cons category rest ih =>
    rw [List.map_cons, collectAll]
    refine List.cons_subset.2 ⟨?_, ih _⟩
    exact (collects_collectAll (fun other _ => collects_collect other) _).before (id_mem_collect category seen)

structure Closes (roots : List Category) (ids : List Int64) : Prop where
  nodup : ids.Nodup
  reached : ∀ found ∈ ids, ∃ category, Reached roots category ∧ category.id = found
  direct : ∀ root ∈ roots, root.id ∈ ids

theorem closes_collectAll (roots : List Category) : Closes roots (collectAll [] roots) where
  nodup := (collects_collectAll (fun category _ => collects_collect category) []).nodup List.nodup_nil
  reached found collected := by
    obtain impossible | met := (collects_collectAll (fun category _ => collects_collect category) []).among found
      collected
    · cases impossible
    · exact mem_walkAll.1 met
  direct root member := ids_subset_collectAll roots [] (List.mem_map_of_mem member)

/-! ### Where records of one id agree -/

/-- Whether all records that some categories reach agree, those of one id, on the ids of their parents. -/
def Coherent (roots : List Category) : Prop :=
  ∀ first second, Reached roots first → Reached roots second → first.id = second.id →
    first.parents.map id = second.parents.map id

instance (roots : List Category) : Decidable (Coherent roots) :=
  decidable_of_iff (∀ first ∈ lineageAll roots, ∀ second ∈ lineageAll roots, first.id = second.id →
    first.parents.map id = second.parents.map id) (by
      simp only [← reached_iff]
      exact ⟨fun agree first second one other => agree first one second other,
        fun agree first one second other => agree first second one other⟩)

theorem Reached.trans {roots : List Category} {category upper : Category} (reached : Reached roots category)
    (above : category.Reaches upper) : Reached roots upper := by
  obtain ⟨root, member, reaches⟩ := reached
  exact ⟨root, member, reaches.trans above⟩

theorem Reached.up {roots : List Category} {category parent : Category} (reached : Reached roots category)
    (link : parent ∈ category.parents) : Reached roots parent :=
  reached.trans (.up link (.here parent))

section

variable {roots : List Category}

theorem flatMap_walk_eq {first second : List Category} (ids : first.map id = second.map id)
    (walks : ∀ one ∈ first, ∀ other ∈ second, one.id = other.id → one.walk = other.walk) :
    first.flatMap walk = second.flatMap walk := by
  induction first generalizing second with
  | nil =>
    have none : second = [] := List.map_eq_nil_iff.1 ids.symm
    rw [none]
  | cons one rest ih =>
    cases second with
    | nil => cases ids
    | cons other others =>
      obtain ⟨same, later⟩ := List.cons.inj ids
      rw [List.flatMap_cons, List.flatMap_cons, walks one List.mem_cons_self other List.mem_cons_self same,
        ih later fun one member other among =>
          walks one (List.mem_cons_of_mem _ member) other (List.mem_cons_of_mem _ among)]

theorem walk_eq_of_id (coherent : Coherent roots) {first second : Category} (one : Reached roots first)
    (other : Reached roots second) (same : first.id = second.id) : first.walk = second.walk := by
  induction first using parents_induction generalizing second with
  | step first ih =>
    have ids := coherent first second one other same
    rw [walk_eq, walk_eq, same, walkAll_eq, walkAll_eq, flatMap_walk_eq ids fun parent link counterpart linked =>
      ih parent link (one.up link) (other.up linked)]

theorem id_ne_of_above (coherent : Coherent roots) {category parent upper : Category}
    (reached : Reached roots category) (link : parent ∈ category.parents) (above : parent.Reaches upper) :
    upper.id ≠ category.id := by
  intro same
  have walks := walk_eq_of_id coherent (reached.trans (.up link above)) reached same
  have shorter : upper.walk.length ≤ (walkAll category.parents).length :=
    ((walk_within above).trans (walk_within_walkAll link)).length_le
  rw [walks, walk_eq, List.length_cons] at shorter
  omega

/-- Above a category that has been seen everything has been seen. -/
def Filled (categories : List Category) (seen : List Int64) : Prop :=
  ∀ category, Reached categories category → category.id ∈ seen → category.walk ⊆ seen

theorem Filled.head {category : Category} {rest : List Category} {seen : List Int64}
    (filled : Filled (category :: rest) seen) : Filled [category] seen := by
  rintro upper ⟨root, member, reaches⟩
  exact filled upper ⟨root, List.mem_cons.2 (.inl (List.mem_singleton.1 member)), reaches⟩

theorem Filled.tail (coherent : Coherent roots) {category : Category} {rest : List Category} {seen : List Int64}
    (reached : ∀ other ∈ category :: rest, Reached roots other) (filled : Filled (category :: rest) seen) :
    Filled rest (seen ++ category.walk).eraseDups := by
  rintro upper ⟨root, member, reaches⟩ shown
  have upperReached : Reached roots upper := (reached root (List.mem_cons_of_mem _ member)).trans reaches
  intro found met
  rw [List.mem_eraseDups, List.mem_append] at shown ⊢
  obtain before | now := shown
  · exact .inl (filled upper ⟨root, List.mem_cons_of_mem _ member, reaches⟩ before met)
  · obtain ⟨counterpart, above, same⟩ := mem_walk.1 now
    have walks := walk_eq_of_id coherent ((reached category List.mem_cons_self).trans above) upperReached same
    rw [← walks] at met
    exact .inr ((walk_within above).subset met)

theorem Filled.enter (coherent : Coherent roots) {category : Category} {seen : List Int64}
    (reached : Reached roots category) (filled : Filled [category] seen) :
    Filled category.parents (seen ++ [category.id]) := by
  rintro upper ⟨parent, link, above⟩ shown
  obtain before | now := List.mem_append.1 shown
  · exact List.Subset.trans (filled upper ⟨category, List.mem_singleton_self _, .up link above⟩ before)
      (List.subset_append_left _ _)
  · exact absurd (List.mem_singleton.1 now) (id_ne_of_above coherent reached link above)

theorem collectAll_eq_eraseDups (coherent : Coherent roots) {categories : List Category}
    (reached : ∀ category ∈ categories, Reached roots category)
    (each : ∀ category ∈ categories, ∀ seen, seen.Nodup → Filled [category] seen →
      category.collect seen = (seen ++ category.walk).eraseDups)
    {seen : List Int64} (distinct : seen.Nodup) (filled : Filled categories seen) :
    collectAll seen categories = (seen ++ walkAll categories).eraseDups := by
  induction categories generalizing seen with
  | nil => rw [collectAll, walkAll, List.append_nil, eraseDups_of_nodup distinct]
  | cons category rest ih =>
    have first := each category List.mem_cons_self seen distinct filled.head
    have stillDistinct := (collects_collect category seen).nodup distinct
    have stillFilled := filled.tail coherent reached
    rw [← first] at stillFilled
    rw [collectAll, walkAll, ih (fun other member => reached other (List.mem_cons_of_mem _ member))
      (fun other member => each other (List.mem_cons_of_mem _ member)) stillDistinct stillFilled, first,
      eraseDups_append_left, List.append_assoc]

/-- What a category adds to what has been seen is the walk over every path without repetitions. -/
theorem collect_eq_eraseDups (coherent : Coherent roots) {category : Category} (reached : Reached roots category)
    {seen : List Int64} (distinct : seen.Nodup) (filled : Filled [category] seen) :
    category.collect seen = (seen ++ category.walk).eraseDups := by
  induction category using parents_induction generalizing seen with
  | step category ih =>
    rw [collect_eq]
    split
    · rename_i known
      have nothingNew := filled category ⟨category, List.mem_singleton_self _, .here _⟩ (List.contains_iff_mem.1 known)
      rw [eraseDups_append_of_subset distinct nothingNew]
    · rename_i unseen
      have walked : seen ++ category.walk = seen ++ [category.id] ++ walkAll category.parents := by
        rw [walk_eq, List.append_cons]
      rw [walked]
      exact collectAll_eq_eraseDups coherent (fun parent link => reached.up link)
        (fun parent link seen distinct filled => ih parent link (reached.up link) distinct filled)
        ((collects_single unseen).nodup distinct) (filled.enter coherent reached)

theorem collectAll_of_coherent (coherent : Coherent roots) : collectAll [] roots = (walkAll roots).eraseDups := by
  have reached : ∀ category ∈ roots, Reached roots category := fun category member =>
    ⟨category, member, .here category⟩
  have filled : Filled roots [] := fun category _ seen => absurd seen List.not_mem_nil
  exact collectAll_eq_eraseDups coherent reached
    (fun category member _ distinct filled => collect_eq_eraseDups coherent (reached category member) distinct filled)
    List.nodup_nil filled

theorem Coherent.of_mem (coherent : Coherent roots) {category : Category} (member : category ∈ roots) :
    Coherent [category] := by
  have included : ∀ upper, Reached [category] upper → Reached roots upper := by
    rintro upper ⟨root, only, reaches⟩
    exact ⟨category, member, List.mem_singleton.1 only ▸ reaches⟩
  exact fun first second one other => coherent first second (included first one) (included second other)

theorem hierarchy_eq (category : Category) : category.hierarchy = collectAll [] [category] := rfl

theorem hierarchy_of_coherent {category : Category} (coherent : Coherent [category]) :
    category.hierarchy = category.walk.eraseDups := by
  rw [hierarchy_eq, collectAll_of_coherent coherent, walkAll_eq, List.flatMap_singleton]

theorem collectAll_eq_hierarchies (coherent : Coherent roots) :
    collectAll [] roots = (roots.flatMap hierarchy).eraseDups := by
  have each : roots.flatMap hierarchy = roots.flatMap fun category => category.walk.eraseDups :=
    List.flatMap_congr fun category member => hierarchy_of_coherent (coherent.of_mem member)
  rw [collectAll_of_coherent coherent, each, eraseDups_flatMap, walkAll_eq]

end

end Category

namespace Item

/-- The closure of the categories of an item lists ancestors alone, each once, and the direct categories among them.
Where records of one id agree on their parents it is the walk up over every path without its repetitions, so no ancestor
is missing, and the closures of the direct categories make it up. -/
theorem closure_as_walked (item : Item) :
    Category.Closes item.categories item.categoryClosure ∧
    (∀ category : Category, Category.Closes [category] category.hierarchy) ∧
    (Category.Coherent item.categories →
      item.categoryClosure = (Category.walkAll item.categories).eraseDups ∧
      (∀ category, Category.Reached item.categories category → category.id ∈ item.categoryClosure) ∧
      item.categoryClosure = (item.categories.flatMap Category.hierarchy).eraseDups) ∧
    ∀ category : Category, Category.Coherent [category] →
      category.hierarchy = category.walk.eraseDups ∧
      ∀ upper, category.Reaches upper → upper.id ∈ category.hierarchy := by
  refine ⟨Category.closes_collectAll _, fun category => Category.closes_collectAll [category], fun coherent => ?_,
    fun category coherent => ?_⟩
  · have walked : item.categoryClosure = (Category.walkAll item.categories).eraseDups :=
      Category.collectAll_of_coherent coherent
    refine ⟨walked, fun category reached => ?_, Category.collectAll_eq_hierarchies coherent⟩
    rw [walked, List.mem_eraseDups]
    exact Category.mem_walkAll.2 ⟨category, reached, rfl⟩
  · have walked := Category.hierarchy_of_coherent coherent
    refine ⟨walked, fun upper reaches => ?_⟩
    rw [walked, List.mem_eraseDups]
    exact Category.mem_walk.2 ⟨upper, reaches, rfl⟩

end Item

namespace Trial

def goods : Category := .mk 1 "Goods" [] []

def wares : Category := .mk 1 "Wares" [5] []

def hot : Category := .mk 2 "Hot" [5, 7] [goods]

def smoky : Category := .mk 3 "Smoky" [] [wares, hot]

def chipotle : Category := .mk 4 "Chipotle" [7] [hot, smoky]

def filed : Item := { Item.new 7 with categories := [chipotle, hot, chipotle, smoky] }

/-- A record of the id of `hot` that has no parents. -/
def stray : Category := .mk 2 "Stray" [] []

end Trial

namespace Item

theorem closure_as_walked_trial :
    Category.Coherent Trial.filed.categories ∧ Trial.filed.categoryClosure = [4, 2, 1, 3] ∧
      (Category.walkAll Trial.filed.categories).length = 20 ∧ 1 ∈ Trial.filed.categoryClosure ∧
      Category.Coherent [Trial.smoky] ∧ Trial.smoky.hierarchy = [3, 1, 2] := by
  have coherent : Category.Coherent Trial.filed.categories := by decide
  have single : Category.Coherent [Trial.smoky] := by decide
  obtain ⟨-, -, whole, each⟩ := closure_as_walked Trial.filed
  obtain ⟨walked, complete, -⟩ := whole coherent
  refine ⟨coherent, walked.trans (by decide), by decide, complete Trial.goods ?_, single,
    (each Trial.smoky single).1.trans (by decide)⟩
  exact ⟨Trial.hot, by simp [Trial.filed], .up List.mem_cons_self (.here Trial.goods)⟩

/-- Records of one id that differ in their parents may hide ancestors from the closure. -/
example : Category.collectAll [] [Trial.stray, Trial.hot] = [2] ∧ Trial.goods.id ∈ Trial.hot.hierarchy := by decide

end Item
end CatalogIndex
