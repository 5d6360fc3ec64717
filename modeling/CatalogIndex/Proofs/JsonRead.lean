import CatalogIndex.Proofs.Decoders
import CatalogIndex.Proofs.Magnitudes
/-!
What a JSON text can be read as. Whatever the text is, its decimals are finite, its whole numbers fit a word, and it
opens no more arrays and objects than it may.
-/
namespace CatalogIndex.Json

def Sound : Json → Prop
  | integer n => fitsWord n = true
  | decimal x => x.isFinite = true
  | _ => True

structure Proper (tree : Json) (depth : Nat) : Prop where
  shallow : tree.depth ≤ depth
  sound : ∀ leaf ∈ tree.leaves, leaf.Sound

theorem proper_of_leaf {tree : Json} {depth : Nat} (leaf : tree.leaves = [tree]) (flat : tree.depth = 0)
    (sound : tree.Sound) : tree.Proper depth where
  shallow := by omega
  sound := by
    rw [leaf]
    exact List.forall_mem_singleton.2 sound

theorem proper_of_numberValue {negative : Bool} {parts : NumberParts} {tree : Json} {depth : Nat}
    (reads : numberValue negative parts = .ok tree) : tree.Proper depth := by
  simp only [numberValue] at reads
  generalize (if negative = true then -(Numeral.value (parts.whole ++ parts.fraction.getD []) : Int)
    else Numeral.value (parts.whole ++ parts.fraction.getD [])) = signed at reads
  split at reads
  · rename_i fits
    cases reads
    simp only [Bool.and_eq_true] at fits
    exact proper_of_leaf rfl rfl fits.2
  · split at reads
    · rename_i found
      cases reads
      exact proper_of_leaf rfl rfl (Binary64.isFinite_of_ofDigits? found)
    · cases reads

theorem proper_of_unsigned {negative : Bool} {chars rest : List Char} {tree : Json} {depth : Nat}
    (reads : unsigned negative chars = .ok (tree, rest)) : tree.Proper depth := by
  obtain ⟨⟨parts, afterParts⟩, -, reads⟩ := of_bind reads
  obtain ⟨number, valued, reads⟩ := of_bind reads
  cases reads
  exact proper_of_numberValue valued

theorem proper_of_number {chars rest : List Char} {tree : Json} {depth : Nat}
    (reads : number chars = .ok (tree, rest)) : tree.Proper depth := by
  unfold number at reads
  split at reads <;> exact proper_of_unsigned reads

/-- What reading with some fuel gives is proper, for values, items and members at once. -/
structure ReadsProper (fuel : Nat) : Prop where
  value {depth : Nat} {chars rest : List Char} {tree : Json} :
    Json.value fuel depth chars = .ok (tree, rest) → tree.Proper depth
  items {depth : Nat} {isFirst : Bool} {chars rest : List Char} {list : List Json} :
    Json.items fuel depth isFirst chars = .ok (list, rest) → (Json.array list).Proper (depth + 1)
  members {depth : Nat} {isFirst : Bool} {chars rest : List Char} {list : List (String × Json)} :
    Json.members fuel depth isFirst chars = .ok (list, rest) → (Json.object list).Proper (depth + 1)

theorem readsProper_value {fuel depth : Nat} {chars rest : List Char} {tree : Json} (proper : ReadsProper fuel)
    (reads : value (fuel + 1) depth chars = .ok (tree, rest)) : tree.Proper depth := by
  rw [value] at reads
  -- By what the text begins with: nothing, one of four kinds of leaves, a bracket, a brace, or else a number.
  split at reads
  · cases reads
  · obtain ⟨_, -, reads⟩ := of_bind reads
    cases reads
    exact proper_of_leaf rfl rfl trivial
  · obtain ⟨_, -, reads⟩ := of_bind reads
    cases reads
    exact proper_of_leaf rfl rfl trivial
  · obtain ⟨_, -, reads⟩ := of_bind reads
    cases reads
    exact proper_of_leaf rfl rfl trivial
  · obtain ⟨_, -, reads⟩ := of_bind reads
    cases reads
    exact proper_of_leaf rfl rfl trivial
  · split at reads
    · cases reads
    · obtain ⟨_, listRead, reads⟩ := of_bind reads
      cases reads
      exact proper.items listRead
  · split at reads
    · cases reads
    · obtain ⟨_, listRead, reads⟩ := of_bind reads
      cases reads
      exact proper.members listRead
  · exact proper_of_number reads

theorem proper_nil {depth : Nat} : (Json.array []).Proper (depth + 1) ∧ (Json.object []).Proper (depth + 1) := by
  have shallow : 0 + 1 ≤ depth + 1 := by omega
  exact ⟨⟨shallow, List.forall_mem_nil _⟩, ⟨shallow, List.forall_mem_nil _⟩⟩

theorem proper_cons {depth : Nat} {item : Json} {list : List Json} (itemProper : item.Proper depth)
    (listProper : (Json.array list).Proper (depth + 1)) : (Json.array (item :: list)).Proper (depth + 1) where
  shallow := by
    have itemShallow := itemProper.shallow
    have listShallow : depthOfItems list + 1 ≤ depth + 1 := listProper.shallow
    change max item.depth (depthOfItems list) + 1 ≤ depth + 1
    omega
  sound := List.forall_mem_append.2 ⟨itemProper.sound, listProper.sound⟩

theorem proper_cons_member {depth : Nat} {name : String} {item : Json} {list : List (String × Json)}
    (itemProper : item.Proper depth) (listProper : (Json.object list).Proper (depth + 1)) :
    (Json.object ((name, item) :: list)).Proper (depth + 1) where
  shallow := by
    have itemShallow := itemProper.shallow
    have listShallow : depthOfMembers list + 1 ≤ depth + 1 := listProper.shallow
    change max item.depth (depthOfMembers list) + 1 ≤ depth + 1
    omega
  sound := List.forall_mem_append.2 ⟨itemProper.sound, listProper.sound⟩

theorem readsProper (fuel : Nat) : ReadsProper fuel := by
  induction fuel with
  | zero => exact ⟨(nomatch ·), (nomatch ·), (nomatch ·)⟩
  | succ fuel ih =>
    refine ⟨readsProper_value ih, fun reads => ?_, fun reads => ?_⟩
    · rw [items] at reads
      obtain ⟨⟨more, afterNext⟩, -, reads⟩ := of_bind reads
      cases more with
      | false =>
        cases reads
        exact proper_nil.1
      | true =>
        obtain ⟨_, itemRead, reads⟩ := of_bind reads
        obtain ⟨_, listRead, reads⟩ := of_bind reads
        cases reads
        exact proper_cons (ih.value itemRead) (ih.items listRead)
    · rw [members] at reads
      obtain ⟨⟨more, afterNext⟩, -, reads⟩ := of_bind reads
      cases more with
      | false =>
        cases reads
        exact proper_nil.2
      | true =>
        obtain ⟨_, nameRead, reads⟩ := of_bind reads
        obtain ⟨_, itemRead, reads⟩ := of_bind reads
        obtain ⟨_, listRead, reads⟩ := of_bind reads
        cases reads
        exact proper_cons_member (ih.value itemRead) (ih.members listRead)

theorem proper_of_gives {depth : Nat} {tree : Json} (gives : Decoder.tree.Gives depth tree) : tree.Proper depth := by
  obtain ⟨chars, rest, reads⟩ := gives
  exact (readsProper _).value reads

/-! ### Parts of a proper tree -/

theorem proper_of_mem_array {list : List Json} {depth : Nat} (proper : (Json.array list).Proper (depth + 1)) :
    ∀ item ∈ list, item.Proper depth := by
  induction list with
  | nil => exact List.forall_mem_nil _
  | cons item list ih =>
    have shallow : max item.depth (depthOfItems list) + 1 ≤ depth + 1 := proper.shallow
    obtain ⟨itemSound, listSound⟩ := List.forall_mem_append.1 proper.sound
    have listShallow : depthOfItems list + 1 ≤ depth + 1 := by omega
    exact List.forall_mem_cons.2 ⟨⟨by omega, itemSound⟩, ih ⟨listShallow, listSound⟩⟩

theorem proper_of_mem_object {list : List (String × Json)} {depth : Nat}
    (proper : (Json.object list).Proper (depth + 1)) : ∀ member ∈ list, member.2.Proper depth := by
  induction list with
  | nil => exact List.forall_mem_nil _
  | cons member list ih =>
    have shallow : max member.2.depth (depthOfMembers list) + 1 ≤ depth + 1 := proper.shallow
    obtain ⟨itemSound, listSound⟩ := List.forall_mem_append.1 proper.sound
    have listShallow : depthOfMembers list + 1 ≤ depth + 1 := by omega
    exact List.forall_mem_cons.2 ⟨⟨by omega, itemSound⟩, ih ⟨listShallow, listSound⟩⟩

end CatalogIndex.Json
