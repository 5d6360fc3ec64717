import CatalogIndex.Json.Decoder
import CatalogIndex.Proofs.JsonText
/-!
Decoders that choose by content, on the text of a tree. What such a decoder gives depends on the tree alone, for lists
and objects of its values as for a single one, and there is one fault for whatever does not fit.
-/
namespace CatalogIndex.Json.Decoder

variable {α : Type} {decoder : Decoder α} {choose : Json → Option α} {fault : Fault} {depth : Nat}

def answer (fault : Fault) (rest : List Char) : Option α → Except Fault (α × List Char)
  | some value => .ok (value, rest)
  | none => .error fault

/-- Whether a decoder, on the text of a tree, gives what is chosen for the tree and stops behind it. -/
def Decides (decoder : Decoder α) (fault : Fault) (choose : Json → Option α) (depth : Nat) (tree : Json) : Prop :=
  ∀ rest, Ends rest → decoder depth (write tree ++ rest) = answer fault rest (choose tree)

def noVariant (name : String) : Fault := unexpected ("data did not match any variant of untagged enum " ++ name)

theorem decides_untagged (name : String) (choose : Json → Option α) {tree : Json}
    (rereads : ∀ leaf ∈ tree.leaves, leaf.Rereads) (shallow : tree.depth ≤ depth) :
    Decides (untagged name choose) (noVariant name) choose depth tree := by
  intro rest ends
  have enough : (write tree).length ≤ fuelFor (write tree ++ rest) := by
    unfold fuelFor
    rw [List.length_append]
    omega
  have read := value_write tree ends rereads shallow enough
  simp only [untagged, Decoder.tree, read, bind, Except.bind, pure, Except.pure]
  cases choose tree <;> rfl

/-! ### Lists -/

def chooseItems (choose : Json → Option α) : Json → Option (List α)
  | array list => list.mapM choose
  | _ => none

theorem manyItems_of_next {chars afterNext rest : List Char} {isFirst : Bool} {fuel : Nat} {item : Json}
    {list : List Json} (next : nextItem isFirst chars = .ok (true, afterNext))
    (itemRead : decoder depth afterNext = answer fault (writeItems list ++ rest) (choose item))
    (listRead : manyItems decoder fuel depth false (writeItems list ++ rest) = answer fault rest (list.mapM choose)) :
    manyItems decoder (fuel + 1) depth isFirst chars = answer fault rest ((item :: list).mapM choose) := by
  simp only [manyItems, next, itemRead, bind, Except.bind, pure, Except.pure, if_true, List.mapM_cons]
  cases choose item with
  | none => rfl
  | some value =>
    simp only [answer, listRead]
    cases list.mapM choose <;> rfl

theorem manyItems_write {list : List Json} {fuel : Nat} {rest : List Char}
    (decides : ∀ item ∈ list, decoder.Decides fault choose depth item)
    (rereads : ∀ leaf ∈ leavesOfItems list, leaf.Rereads) (long : (writeItems list).length ≤ fuel) :
    manyItems decoder fuel depth false (writeItems list ++ rest) = answer fault rest (list.mapM choose) := by
  induction list generalizing fuel with
  | nil =>
    obtain ⟨fuel, rfl⟩ := Nat.exists_eq_succ_of_ne_zero (Nat.ne_of_gt (show 0 < fuel from long))
    rfl
  | cons item list ih =>
    obtain ⟨itemDecides, listDecide⟩ := List.forall_mem_cons.1 decides
    obtain ⟨itemRereads, listRereads⟩ := List.forall_mem_append.1 rereads
    rw [writeItems, List.length_append, List.length_cons] at long
    obtain ⟨fuel, rfl⟩ := Nat.exists_eq_succ_of_ne_zero (show fuel ≠ 0 by omega)
    have listRead := ih listDecide listRereads (show _ ≤ fuel by omega)
    have itemRead := itemDecides _ (ends_writeItems list rest)
    simp only [writeItems, List.cons_append, List.append_assoc]
    exact manyItems_of_next (nextItem_write itemRereads _).2 itemRead listRead

theorem decides_many {list : List Json} (decides : ∀ item ∈ list, decoder.Decides fault choose depth item)
    (rereads : ∀ leaf ∈ leavesOfItems list, leaf.Rereads) :
    (many decoder).Decides fault (chooseItems choose) (depth + 1) (.array list) := by
  intro rest ends
  have begins (chars : List Char) : skipSpace ('[' :: chars) = '[' :: chars := skipSpace_cons rfl _
  cases list with
  | nil => rfl
  | cons item list =>
    obtain ⟨itemDecides, listDecide⟩ := List.forall_mem_cons.1 decides
    obtain ⟨itemRereads, listRereads⟩ := List.forall_mem_append.1 rereads
    have enough : fuelFor (write item ++ (writeItems list ++ rest)) =
        (2 * (write item ++ (writeItems list ++ rest)).length + 1) + 1 := rfl
    have listRead : manyItems decoder (2 * (write item ++ (writeItems list ++ rest)).length + 1) depth false
        (writeItems list ++ rest) = answer fault rest (list.mapM choose) := by
      refine manyItems_write listDecide listRereads ?_
      rw [List.length_append, List.length_append]
      omega
    have itemRead := itemDecides _ (ends_writeItems list rest)
    simp only [many, write, List.cons_append, List.append_assoc, begins, enough]
    exact manyItems_of_next (nextItem_write itemRereads _).1 itemRead listRead

/-! ### Objects -/

def chooseMember (choose : Json → Option α) (member : String × Json) : Option (String × α) :=
  (choose member.2).map fun value => (member.1, value)

def chooseMembers (choose : Json → Option α) : Json → Option (List (String × α))
  | object list => list.mapM (chooseMember choose)
  | _ => none

theorem mapMembers_of_next {chars afterNext afterName rest : List Char} {isFirst : Bool} {fuel : Nat} {name : String}
    {item : Json} {list : List (String × Json)} (next : nextMember isFirst chars = .ok (true, afterNext))
    (nameRead : memberName afterNext = .ok (name, afterName))
    (itemRead : decoder depth afterName = answer fault (writeMembers list ++ rest) (choose item))
    (listRead : mapMembers decoder fuel depth false (writeMembers list ++ rest) =
      answer fault rest (list.mapM (chooseMember choose))) :
    mapMembers decoder (fuel + 1) depth isFirst chars =
      answer fault rest (((name, item) :: list).mapM (chooseMember choose)) := by
  simp only [mapMembers, next, nameRead, itemRead, bind, Except.bind, pure, Except.pure, if_true, List.mapM_cons,
    chooseMember]
  cases choose item with
  | none => rfl
  | some value =>
    simp only [answer, listRead]
    cases list.mapM (chooseMember choose) <;> rfl

theorem mapMembers_write {list : List (String × Json)} {fuel : Nat} {rest : List Char}
    (decides : ∀ member ∈ list, decoder.Decides fault choose depth member.2)
    (long : (writeMembers list).length ≤ fuel) :
    mapMembers decoder fuel depth false (writeMembers list ++ rest) =
      answer fault rest (list.mapM (chooseMember choose)) := by
  induction list generalizing fuel with
  | nil =>
    obtain ⟨fuel, rfl⟩ := Nat.exists_eq_succ_of_ne_zero (Nat.ne_of_gt (show 0 < fuel from long))
    rfl
  | cons member list ih =>
    obtain ⟨name, item⟩ := member
    obtain ⟨itemDecides, listDecide⟩ := List.forall_mem_cons.1 decides
    simp only [writeMembers, List.length_append, List.length_cons] at long
    obtain ⟨fuel, rfl⟩ := Nat.exists_eq_succ_of_ne_zero (show fuel ≠ 0 by omega)
    have listRead := ih listDecide (show _ ≤ fuel by omega)
    have itemRead := itemDecides _ (ends_writeMembers list rest)
    simp only [writeMembers, quoted, List.cons_append, List.append_assoc, List.nil_append]
    exact mapMembers_of_next (nextMember_later _) (memberName_quoted name _) itemRead listRead

theorem decides_map {list : List (String × Json)}
    (decides : ∀ member ∈ list, decoder.Decides fault choose depth member.2) :
    (map decoder).Decides fault (chooseMembers choose) (depth + 1) (.object list) := by
  intro rest ends
  have begins (chars : List Char) : skipSpace ('\x7b' :: chars) = '\x7b' :: chars := skipSpace_cons rfl _
  rcases list with - | ⟨⟨name, item⟩, list⟩
  · rfl
  · obtain ⟨itemDecides, listDecide⟩ := List.forall_mem_cons.1 decides
    simp only [map, write, quoted, List.cons_append, List.append_assoc, List.nil_append, begins]
    have listRead (fuel : Nat) (long : (writeMembers list).length ≤ fuel) :
        mapMembers decoder fuel depth false (writeMembers list ++ rest) =
          answer fault rest (list.mapM (chooseMember choose)) := mapMembers_write listDecide long
    have itemRead := itemDecides _ (ends_writeMembers list rest)
    refine mapMembers_of_next (nextMember_first _) (memberName_quoted name _) itemRead (listRead _ ?_)
    simp only [List.length_append, List.length_cons]
    omega

/-! ### Changes of what is read -/

def change {β : Type} (decoder : Decoder α) (apply : α → β) : Decoder β := fun depth chars => do
  let (value, rest) ← decoder depth chars
  return (apply value, rest)

theorem Decides.change {β : Type} {tree : Json} (decides : decoder.Decides fault choose depth tree) (apply : α → β) :
    (decoder.change apply).Decides fault (fun tree => (choose tree).map apply) depth tree := by
  intro rest ends
  have read := decides rest ends
  simp only [Decoder.change, read, bind, Except.bind, pure, Except.pure]
  cases choose tree <;> rfl

theorem Decides.decode {tree : Json} (decides : decoder.Decides fault choose maxDepth tree) :
    decoder.decode tree.render = (choose tree).elim (.error fault) .ok := by
  have read := decides [] ends_nil
  rw [List.append_nil] at read
  unfold Decoder.decode Json.render
  rw [String.toList_ofList, read]
  cases choose tree <;> rfl

/-! ### What has been decoded -/

def Gives (decoder : Decoder α) (depth : Nat) (value : α) : Prop :=
  ∃ chars rest, decoder depth chars = .ok (value, rest)

theorem gives_of_manyItems {fuel : Nat} {isFirst : Bool} {chars rest : List Char} {list : List α}
    (reads : manyItems decoder fuel depth isFirst chars = .ok (list, rest)) :
    ∀ value ∈ list, decoder.Gives depth value := by
  induction fuel generalizing isFirst chars list with
  | zero => cases reads
  | succ fuel ih =>
    obtain ⟨⟨more, afterNext⟩, -, reads⟩ := of_bind reads
    cases more with
    | false =>
      cases reads
      exact List.forall_mem_nil _
    | true =>
      obtain ⟨⟨item, afterItem⟩, itemRead, reads⟩ := of_bind reads
      obtain ⟨⟨later, afterLater⟩, laterRead, reads⟩ := of_bind reads
      cases reads
      exact List.forall_mem_cons.2 ⟨⟨_, _, itemRead⟩, ih laterRead⟩

theorem gives_of_many {list : List α} (gives : (many decoder).Gives depth list) :
    ∃ inner, depth = inner + 1 ∧ ∀ value ∈ list, decoder.Gives inner value := by
  obtain ⟨chars, rest, reads⟩ := gives
  unfold many at reads
  split at reads
  · cases depth with
    | zero => cases reads
    | succ inner => exact ⟨inner, rfl, gives_of_manyItems reads⟩
  · cases reads

theorem gives_of_mapMembers {fuel : Nat} {isFirst : Bool} {chars rest : List Char} {list : List (String × α)}
    (reads : mapMembers decoder fuel depth isFirst chars = .ok (list, rest)) :
    ∀ member ∈ list, decoder.Gives depth member.2 := by
  induction fuel generalizing isFirst chars list with
  | zero => cases reads
  | succ fuel ih =>
    obtain ⟨⟨more, afterNext⟩, -, reads⟩ := of_bind reads
    cases more with
    | false =>
      cases reads
      exact List.forall_mem_nil _
    | true =>
      obtain ⟨⟨name, afterName⟩, -, reads⟩ := of_bind reads
      obtain ⟨⟨item, afterItem⟩, itemRead, reads⟩ := of_bind reads
      obtain ⟨⟨later, afterLater⟩, laterRead, reads⟩ := of_bind reads
      cases reads
      exact List.forall_mem_cons.2 ⟨⟨_, _, itemRead⟩, ih laterRead⟩

theorem gives_of_map {list : List (String × α)} (gives : (map decoder).Gives depth list) :
    ∃ inner, depth = inner + 1 ∧ ∀ member ∈ list, decoder.Gives inner member.2 := by
  obtain ⟨chars, rest, reads⟩ := gives
  unfold map at reads
  split at reads
  · cases depth with
    | zero => cases reads
    | succ inner => exact ⟨inner, rfl, gives_of_mapMembers reads⟩
  · cases reads

theorem gives_of_change {β : Type} {apply : α → β} {value : β} (gives : (decoder.change apply).Gives depth value) :
    ∃ before, decoder.Gives depth before ∧ apply before = value := by
  obtain ⟨chars, rest, reads⟩ := gives
  obtain ⟨⟨before, afterBefore⟩, beforeRead, reads⟩ := of_bind reads
  cases reads
  exact ⟨before, ⟨_, _, beforeRead⟩, rfl⟩

theorem gives_of_untagged {name : String} {value : α} (gives : (untagged name choose).Gives depth value) :
    ∃ tree, Decoder.tree.Gives depth tree ∧ choose tree = some value := by
  obtain ⟨chars, rest, reads⟩ := gives
  obtain ⟨⟨tree, afterTree⟩, treeRead, reads⟩ := of_bind reads
  refine ⟨tree, ⟨chars, afterTree, treeRead⟩, ?_⟩
  simp only at reads
  split at reads
  · rename_i chosen
    cases reads
    exact chosen
  · cases reads

theorem gives_of_decode {source : String} {value : α} (decodes : decoder.decode source = .ok value) :
    decoder.Gives maxDepth value := by
  obtain ⟨⟨read, rest⟩, reads, decodes⟩ := of_bind decodes
  simp only at decodes
  split at decodes
  · cases decodes
    exact ⟨_, _, reads⟩
  · cases decodes

end CatalogIndex.Json.Decoder
