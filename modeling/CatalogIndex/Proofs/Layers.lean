import CatalogIndex.Settings.Key
import Mathlib.Data.List.Basic
/-!
What a layer does at a path. Whatever it lays at the path takes the place of what was there, the last value counting; as
long as it lays nothing there, it does the same around the path whatever is found at it. So what a path leads to can be
followed from layer to layer without a look at the other paths.
-/
namespace CatalogIndex.Key

variable {name other : String} {value inner : Json} {members : List (String × Json)} {path rest : List String}
  {parts : List KeyPart} {values : List Json} {found final there : Option Json} {tree layer left right : Json}

@[simp] theorem find?_put_self : find? name (put name value members) = some value := by
  induction members with
  | nil => simp [put, find?]
  | cons entry rest ih =>
    unfold put
    split
    · simp [find?]
    · rename_i differ
      simpa [find?, differ] using ih

theorem find?_put_of_ne (differ : other ≠ name) : find? other (put name value members) = find? other members := by
  induction members with
  | nil => simp [put, find?, differ]
  | cons entry rest ih =>
    unfold put
    split
    · rename_i same
      simp [find?, differ, ← same]
    · simp [find?, ih]

def reach : List String → Option Json → Option Json
  | [], there => there
  | name :: rest, there => reach rest (find? name (membersOf (there.getD .null)))

def parted : List String → List String → Bool
  | name :: rest, other :: more => if name = other then parted rest more else true
  | _, _ => false

/-- Whether there is a table, or nothing that keeps one from being made. -/
def isOpen : Option Json → Bool
  | none => true
  | some (.object _) => true
  | _ => false

/-- What a path leads to below something, all that stands on the way being tables. -/
def Leads : List String → Option Json → Option Json → Prop
  | [], found, there => found = there
  | name :: rest, found, there =>
    isOpen there = true ∧ Leads rest found (find? name (membersOf (there.getD .null)))

/-- Trees that are the same but for what a path leads to and for empty tables on the way. -/
def AgreeOff : List String → Json → Json → Prop
  | [], _, _ => True
  | name :: rest, left, right =>
    (∀ other, other ≠ name → find? other (membersOf left) = find? other (membersOf right)) ∧
      AgreeOff rest ((find? name (membersOf left)).getD .null) ((find? name (membersOf right)).getD .null)

/-- What a value lays at a path below the place that it is itself laid at: values in turn, and nothing certain where a
table comes to the path or anything else comes in its way. -/
def laid : List String → Json → List (Option Json)
  | [], .object _ => [none]
  | [], value => [some value]
  | name :: rest, .object members =>
    members.flatMap fun entry => if lower entry.1 = name then laid rest entry.2 else []
  | _ :: _, _ => [none]

def placed : List KeyPart → List String → Json → List (Option Json)
  | [], path, value => laid path value
  | .member other :: parts, name :: rest, value => if other = name then placed parts rest value else []
  | _, _, _ => [none]

def touches (path : List String) (layer : Json) : List (Option Json) :=
  (membersOf layer).flatMap fun entry => placed (parse (lower entry.1)) path entry.2

theorem overlayMembers_eq (there : Json) (members : List (String × Json)) :
    overlayMembers there members =
      members.foldl (fun there entry => place entry.2 [.member (lower entry.1)] there) there := by
  induction members generalizing there with
  | nil => rfl
  | cons entry rest ih => exact ih _

theorem laid_object (name : String) (rest : List String) (members : List (String × Json)) :
    laid (name :: rest) (.object members) =
      members.flatMap fun entry => placed [.member (lower entry.1)] (name :: rest) entry.2 := rfl

theorem overlay_of_leaf (certain : laid [] value = values.map some) : values = [value] ∧ overlay there value = value := by
  cases value <;> cases values <;> simp_all [laid, overlay]

def settle (value : Json) (parts : List KeyPart) (there : Option Json) : Json :=
  match parts with
  | [] => overlay there value
  | part :: parts => place value (part :: parts) (there.getD .null)

theorem settle_member (value : Json) (other : String) (parts : List KeyPart) (there : Option Json) :
    settle value (.member other :: parts) there =
      .object (put other (settle value parts (find? other (membersOf (there.getD .null))))
        (membersOf (there.getD .null))) := by
  cases parts <;> rfl

theorem parse_ne_nil (name : String) : parse name ≠ [] := by
  unfold parse
  dsimp only
  split
  · exact List.cons_ne_nil _ _
  · cases partsAfter? _ _ <;> exact List.cons_ne_nil _ _

theorem place_parse (value : Json) (name : String) (tree : Json) :
    place value (parse name) tree = settle value (parse name) (some tree) := by
  obtain ⟨part, parts, same⟩ := List.exists_cons_of_ne_nil (parse_ne_nil name)
  rw [same]
  rfl

/-! ### What is found -/

namespace Leads

theorem reach (leads : Leads path found there) : reach path there = found := by
  induction path generalizing there with
  | nil => exact leads.symm
  | cons name rest ih => exact ih leads.2

theorem put (leads : Leads (name :: rest) found there) (on : other = name → Leads rest final (some inner))
    (off : other ≠ name → final = found) :
    Leads (name :: rest) final (some (.object (put other inner (membersOf (there.getD .null))))) := by
  refine ⟨rfl, ?_⟩
  change Leads rest final (find? name (Key.put other inner _))
  by_cases same : other = name
  · rw [same, find?_put_self]
    exact on same
  · rw [find?_put_of_ne (Ne.symm same), off same]
    exact leads.2

theorem foldl {ε : Type} {step : Json → ε → Json} {lays : ε → List (Option Json)}
    (each : ∀ entry tree found (values : List Json), lays entry = values.map some → Leads path found (some tree) →
      Leads path (values.getLast?.or found) (some (step tree entry)))
    (entries : List ε) (certain : entries.flatMap lays = values.map some) (leads : Leads path found (some tree)) :
    Leads path (values.getLast?.or found) (some (entries.foldl step tree)) := by
  induction entries generalizing tree found values with
  | nil =>
    obtain rfl : values = [] := List.map_eq_nil_iff.1 certain.symm
    exact leads
  | cons entry rest ih =>
    rw [List.flatMap_cons] at certain
    obtain ⟨first, later, rfl, here, further⟩ := List.map_eq_append_iff.1 certain.symm
    rw [List.getLast?_append, Option.or_assoc]
    exact ih further.symm (each entry tree found first here.symm leads)

theorem overlay (certain : laid path value = values.map some) (leads : Leads path found there) :
    Leads path (values.getLast?.or found) (some (overlay there value)) := by
  -- Along the path: at its end the value takes the place of what was there, and before it only the members of the next
  -- name count.
  induction path generalizing value values found there with
  | nil =>
    have leaf : values = [value] ∧ Key.overlay there value = value := overlay_of_leaf certain
    obtain ⟨rfl, same⟩ := leaf
    rw [same]
    rfl
  | cons name rest ih =>
    cases value with
    | object members =>
      rw [laid_object] at certain
      have start : Leads (name :: rest) found (some (there.getD (.object []))) := by
        cases there with
        | none => exact leads
        | some tree => exact leads
      change Leads _ _ (some (overlayMembers _ members))
      rw [overlayMembers_eq]
      refine foldl (fun entry tree found values lays leads => ?_) members certain start
      refine leads.put (fun same => ?_) fun differ => ?_
      · rw [placed, if_pos same] at lays
        exact ih lays (same ▸ leads.2)
      · rw [placed, if_neg differ] at lays
        rw [List.map_eq_nil_iff.1 lays.symm]
        rfl
    | _ =>
      cases values <;> simp [laid] at certain

theorem settle (certain : placed parts path value = values.map some) (leads : Leads path found there) :
    Leads path (values.getLast?.or found) (some (settle value parts there)) := by
  induction parts generalizing path found there with
  | nil => exact overlay certain leads
  | cons part parts ih =>
    match path, part with
    | [], _ => cases values <;> simp [placed] at certain
    | _ :: _, .element _ => cases values <;> simp [placed] at certain
    | name :: rest, .member other =>
      rw [settle_member]
      refine leads.put (fun same => ?_) fun differ => ?_
      · rw [placed, if_pos same] at certain
        exact ih certain (same ▸ leads.2)
      · rw [placed, if_neg differ] at certain
        rw [List.map_eq_nil_iff.1 certain.symm]
        rfl

/-- A layer that lays values only at a path decides what the path leads to, if there is a value among them. -/
theorem merge (certain : touches path layer = values.map some) (leads : Leads path found (some tree)) :
    Leads path (values.getLast?.or found) (some (merge tree layer)) := by
  refine foldl (fun entry tree found values lays leads => ?_) _ certain leads
  rw [place_parse]
  exact leads.settle lays

end Leads

/-! ### What is found elsewhere -/

namespace AgreeOff

theorem refl (path : List String) (tree : Json) : AgreeOff path tree tree := by
  induction path generalizing tree with
  | nil => trivial
  | cons name rest ih => exact ⟨fun _ _ => rfl, ih _⟩

theorem reach {other : List String} {before after : Option Json} (parts : parted path other = true)
    (agree : AgreeOff path (before.getD .null) (after.getD .null)) : reach other before = reach other after := by
  induction path generalizing other before after with
  | nil => cases parts
  | cons name rest ih =>
    cases other with
    | nil => cases parts
    | cons first more =>
      change Key.reach more _ = Key.reach more _
      by_cases same : name = first
      · rw [parted, if_pos same] at parts
        exact ih parts (same ▸ agree.2)
      · rw [agree.1 first (Ne.symm same)]

theorem put {leftInner rightInner : Json} (agree : AgreeOff (name :: rest) left right)
    (on : other = name → AgreeOff rest leftInner rightInner) (off : other ≠ name → leftInner = rightInner) :
    AgreeOff (name :: rest) (.object (put other leftInner (membersOf left)))
      (.object (put other rightInner (membersOf right))) := by
  constructor
  · intro key differ
    change find? key (Key.put other _ _) = find? key (Key.put other _ _)
    by_cases same : key = other
    · rw [same, find?_put_self, find?_put_self, off (same ▸ differ)]
    · rw [find?_put_of_ne same, find?_put_of_ne same]
      exact agree.1 key differ
  · change AgreeOff rest ((find? name (Key.put other _ _)).getD _) ((find? name (Key.put other _ _)).getD _)
    by_cases same : other = name
    · rw [same, find?_put_self, find?_put_self]
      exact on same
    · rw [find?_put_of_ne (Ne.symm same), find?_put_of_ne (Ne.symm same)]
      exact agree.2

theorem foldl {ε : Type} {step : Json → ε → Json} {lays : ε → List (Option Json)}
    (each : ∀ entry left right, lays entry = [] → AgreeOff path left right →
      AgreeOff path (step left entry) (step right entry))
    (entries : List ε) (untouched : entries.flatMap lays = []) (agree : AgreeOff path left right) :
    AgreeOff path (entries.foldl step left) (entries.foldl step right) := by
  induction entries generalizing left right with
  | nil => exact agree
  | cons entry rest ih =>
    rw [List.flatMap_cons] at untouched
    obtain ⟨here, further⟩ := List.append_eq_nil_iff.1 untouched
    exact ih further (each entry left right here agree)

theorem overlay {before after : Option Json} (untouched : laid path value = [])
    (agree : AgreeOff path (before.getD .null) (after.getD .null)) :
    AgreeOff path (overlay before value) (overlay after value) := by
  induction path generalizing value before after with
  | nil => trivial
  | cons name rest ih =>
    cases value with
    | object members =>
      rw [laid_object] at untouched
      have same (there : Option Json) : membersOf (there.getD (.object [])) = membersOf (there.getD .null) := by
        cases there <;> rfl
      have start : AgreeOff (name :: rest) (before.getD (.object [])) (after.getD (.object [])) := by
        unfold AgreeOff
        rw [same, same]
        exact agree
      change AgreeOff _ (overlayMembers _ members) (overlayMembers _ members)
      rw [overlayMembers_eq, overlayMembers_eq]
      refine foldl (fun entry left right lays agree => ?_) members untouched start
      refine agree.put (fun same => ?_) fun differ => ?_
      · rw [placed, if_pos same] at lays
        exact ih lays (same ▸ agree.2)
      · rw [agree.1 _ differ]
    | _ => simp [laid] at untouched

theorem settle {before after : Option Json} (untouched : placed parts path value = [])
    (agree : AgreeOff path (before.getD .null) (after.getD .null)) :
    AgreeOff path (settle value parts before) (settle value parts after) := by
  induction parts generalizing path before after with
  | nil => exact overlay untouched agree
  | cons part parts ih =>
    match path, part with
    | [], _ => trivial
    | _ :: _, .element _ => simp [placed] at untouched
    | name :: rest, .member other =>
      rw [settle_member, settle_member]
      refine agree.put (fun same => ?_) fun differ => ?_
      · rw [placed, if_pos same] at untouched
        exact ih untouched (same ▸ agree.2)
      · rw [agree.1 _ differ]

/-- A layer that lays nothing at a path does the same around it, whatever is found there. -/
theorem merge (untouched : touches path layer = []) (agree : AgreeOff path left right) :
    AgreeOff path (merge left layer) (merge right layer) := by
  refine foldl (fun entry left right lays agree => ?_) _ untouched agree
  rw [place_parse, place_parse]
  exact agree.settle lays

theorem settle_right {there : Option Json} (value : Json) (agree : AgreeOff path left (there.getD .null)) :
    AgreeOff path left (Key.settle value (path.map .member) there) := by
  induction path generalizing left there with
  | nil => trivial
  | cons name rest ih =>
    rw [List.map_cons, settle_member]
    constructor
    · intro key differ
      change _ = find? key (Key.put name _ _)
      rw [find?_put_of_ne differ]
      exact agree.1 key differ
    · change AgreeOff rest _ ((find? name (Key.put name _ _)).getD _)
      rw [find?_put_self]
      exact ih agree.2

end AgreeOff

theorem laid_nil_ne_nil (value : Json) : laid [] value ≠ [] := by
  cases value <;> exact List.cons_ne_nil _ _

theorem placed_members (path : List String) (value : Json) :
    placed (path.map .member) path value = laid [] value := by
  induction path with
  | nil => rfl
  | cons name rest ih =>
    rw [List.map_cons, placed, if_pos rfl]
    exact ih

theorem merge_entry {key : String} {before after : List (String × Json)} (leads : parse (lower key) = path.map .member)
    (leaf : laid [] value = [some value]) (untouched : touches path (.object (before ++ after)) = []) (tree : Json) :
    touches path (.object (before ++ (key, value) :: after)) = [some value] ∧
      AgreeOff path (merge tree (.object (before ++ after))) (merge tree (.object (before ++ (key, value) :: after))) := by
  have parts : touches path (.object before) ++ touches path (.object after) = [] :=
    List.flatMap_append.symm.trans untouched
  obtain ⟨front, back⟩ := List.append_eq_nil_iff.1 parts
  constructor
  · have split : touches path (.object (before ++ (key, value) :: after)) =
        touches path (.object before) ++ (placed (parse (lower key)) path value ++ touches path (.object after)) := by
      unfold touches
      rw [membersOf, membersOf, membersOf, List.flatMap_append, List.flatMap_cons]
    rw [split, front, back, leads, placed_members, leaf]
    rfl
  · have skipped : merge tree (.object (before ++ after)) = merge (merge tree (.object before)) (.object after) :=
      List.foldl_append
    have passed : merge tree (.object (before ++ (key, value) :: after)) =
        merge (place value (parse (lower key)) (merge tree (.object before))) (.object after) := by
      change List.foldl _ _ (before ++ _ :: _) = _
      rw [List.foldl_append, List.foldl_cons]
      rfl
    rw [skipped, passed, place_parse, leads]
    exact AgreeOff.merge back (.settle_right value (.refl path _))

end CatalogIndex.Key
