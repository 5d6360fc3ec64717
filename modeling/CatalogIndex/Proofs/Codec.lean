import CatalogIndex.Proofs.JsonRead
import CatalogIndex.Proofs.Shown
/-!
Attributes and documents as JSON texts. The text does not say which kind of value stands where, so decoding takes the
first kind that fits. It gives back what was encoded exactly if no decimal in it is infinite or no number and no text in
it reads as an instant, and what has been decoded from any text is of that sort.
-/
namespace CatalogIndex

open Json.Decoder (Gives noVariant chooseItems chooseMembers chooseMember)

/-! ### Values -/

/-- Whether the finite decimals among some values are read from their texts. -/
def Rereads (values : List Value) : Prop :=
  ∀ x, .decimal x ∈ values → x.isFinite = true → Json.number (Json.writeDecimal x) = .ok (.decimal x, [])

namespace Value

theorem leaves_toJson (value : Value) : value.toJson.leaves = [value.toJson] := by
  cases value with
  | decimal x => cases finite : x.isFinite <;> simp [toJson, finite, Json.leaves]
  | _ => rfl

theorem depth_toJson (value : Value) : value.toJson.depth = 0 := by
  cases value with
  | decimal x => cases finite : x.isFinite <;> simp [toJson, finite, Json.depth]
  | _ => rfl

theorem rereads_toJson {values : List Value} (rereads : Rereads values) {value : Value} (member : value ∈ values) :
    value.toJson.Rereads := by
  cases value with
  | integer n =>
    have least := n.le_toInt
    have most := n.toInt_lt
    have minimum : Int64.minValue.toInt = -2 ^ 63 := rfl
    have size : (UInt64.size : Int) = 2 ^ 64 := rfl
    simp only [toJson, Json.Rereads, Json.fitsWord, Bool.and_eq_true, decide_eq_true_eq, minimum, size]
    omega
  | decimal x =>
    cases finite : x.isFinite with
    | false =>
      simp only [toJson, finite, Bool.false_eq_true, if_false]
      trivial
    | true =>
      simp only [toJson, finite, if_true]
      exact rereads x member finite
  | _ => trivial

theorem leavesOfItems_toJson (values : List Value) :
    Json.leavesOfItems (values.map toJson) = values.map toJson := by
  induction values with
  | nil => rfl
  | cons value rest ih =>
    rw [List.map_cons, Json.leavesOfItems, leaves_toJson, ih]
    rfl

theorem mapM_ofJson?_toJson (values : List Value) :
    (values.map toJson).mapM ofJson? = if values.all isFinite then some (values.map shown) else none := by
  induction values with
  | nil => rfl
  | cons value rest ih =>
    rw [List.map_cons, List.mapM_cons, ofJson?_toJson, ih, List.all_cons]
    cases value.isFinite <;> cases rest.all isFinite <;> rfl

theorem kept_of_proper {tree : Json} {depth : Nat} {value : Value} (proper : tree.Proper depth)
    (reads : ofJson? tree = some value) : value.Kept := by
  refine kept_of_ofJson? (fun x same => ?_) (fun n same => ?_) reads
  · rw [same] at proper
    exact proper.sound _ List.mem_cons_self
  · rw [same] at proper
    exact Binary64.isFinite_ofInt (proper.sound _ List.mem_cons_self)

end Value

/-! ### Codecs -/

section

variable {α : Type} {encode : α → String} {decode : String → Except Json.Fault α} {leaves : α → List Value}
  {same : α → α → Bool} {fits : α → Prop} {shown : α → α} {fault : Json.Fault}

/-- What a codec of things that hold values keeps and loses, as far as the texts of finite decimals are read as these
decimals. -/
structure Faithful (encode : α → String) (decode : String → Except Json.Fault α) (leaves : α → List Value)
    (same : α → α → Bool) (fits : α → Prop) : Prop where
  /-- An equal thing comes back exactly if no value in it is lost. -/
  same_iff (thing : α) : fits thing → Rereads (leaves thing) →
    ((∃ back, decode (encode thing) = .ok back ∧ same back thing = true) ↔ ∀ leaf ∈ leaves thing, leaf.Kept)
  /-- What comes back then is the thing itself. -/
  back (thing : α) : fits thing → Rereads (leaves thing) → (∀ leaf ∈ leaves thing, leaf.Kept) →
    decode (encode thing) = .ok thing
  /-- A decimal that is not finite fails the whole. -/
  refused (thing : α) (x : Binary64) : fits thing → Rereads (leaves thing) → .decimal x ∈ leaves thing →
    x.isFinite = false → ∃ fault, decode (encode thing) = .error fault
  /-- What has been decoded from any text comes back. -/
  again (source : String) (thing : α) : decode source = .ok thing → Rereads (leaves thing) →
    decode (encode thing) = .ok thing

theorem faithful_of_shown
    (decodes : ∀ thing, fits thing → Rereads (leaves thing) →
      decode (encode thing) = if (leaves thing).all Value.isFinite then .ok (shown thing) else .error fault)
    (stays : ∀ thing, (∀ leaf ∈ leaves thing, leaf.Kept) → shown thing = thing)
    (equals : ∀ thing, (leaves thing).all Value.isFinite = true →
      (same (shown thing) thing = true ↔ ∀ leaf ∈ leaves thing, leaf.Kept))
    (reads : ∀ source thing, decode source = .ok thing → fits thing ∧ ∀ leaf ∈ leaves thing, leaf.Kept) :
    Faithful encode decode leaves same fits := by
  have finite_of_kept {thing : α} (kept : ∀ leaf ∈ leaves thing, leaf.Kept) :
      (leaves thing).all Value.isFinite = true :=
    List.all_eq_true.2 fun leaf member => (kept leaf member).isFinite
  have back {thing : α} (within : fits thing) (rereads : Rereads (leaves thing))
      (kept : ∀ leaf ∈ leaves thing, leaf.Kept) : decode (encode thing) = .ok thing := by
    rw [decodes thing within rereads, if_pos (finite_of_kept kept), stays thing kept]
  refine ⟨fun thing within rereads => ⟨?_, fun kept => ?_⟩, fun thing => back, ?_,
    fun source thing decoded rereads => ?_⟩
  · rintro ⟨found, decoded, equal⟩
    rw [decodes thing within rereads] at decoded
    split at decoded
    · rename_i finite
      cases decoded
      exact (equals thing finite).1 equal
    · cases decoded
  · have equal := (equals thing (finite_of_kept kept)).2 kept
    rw [stays thing kept] at equal
    exact ⟨thing, back within rereads kept, equal⟩
  · intro thing x within rereads member infinite
    exact ⟨fault, by rw [decodes thing within rereads, if_neg (Value.not_all_isFinite member infinite)]⟩
  · obtain ⟨within, kept⟩ := reads source thing decoded
    exact back within rereads kept

end

/-! ### Attributes -/

namespace Attribute

mutual

theorem leaves_toJson : ∀ tree : Attribute, tree.toJson.leaves = tree.leaves.map Value.toJson
  | value scalar => scalar.leaves_toJson
  | list items => leavesOfItems_toJson items
  | object members => leavesOfMembers_toJson members

theorem leavesOfItems_toJson : ∀ items : List Attribute,
    Json.leavesOfItems (toJsonItems items) = (leavesOfItems items).map Value.toJson
  | [] => rfl
  | item :: rest => by
    rw [toJsonItems, Json.leavesOfItems, leaves_toJson item, leavesOfItems_toJson rest, leavesOfItems, List.map_append]

theorem leavesOfMembers_toJson : ∀ members : List (String × Attribute),
    Json.leavesOfMembers (toJsonMembers members) = (leavesOfMembers members).map Value.toJson
  | [] => rfl
  | (name, item) :: rest => by
    rw [toJsonMembers, Json.leavesOfMembers, leaves_toJson item, leavesOfMembers_toJson rest, leavesOfMembers,
      List.map_append]

end

theorem rereads_toJson {tree : Attribute} (rereads : Rereads tree.leaves) :
    ∀ leaf ∈ tree.toJson.leaves, leaf.Rereads := by
  intro leaf member
  rw [leaves_toJson] at member
  obtain ⟨value, inTree, rfl⟩ := List.mem_map.1 member
  exact Value.rereads_toJson rereads inTree

theorem decode_encode {tree : Attribute} (ordered : tree.Ordered) (shallow : tree.toJson.depth ≤ Json.maxDepth)
    (rereads : Rereads tree.leaves) :
    decode tree.encode =
      if tree.leaves.all Value.isFinite then .ok tree.shown else .error (noVariant "AttributeValue") := by
  have decides := Json.Decoder.decides_untagged "AttributeValue" ofJson? (rereads_toJson rereads) shallow
  have decoded := decides.decode
  rw [ofJson?_toJson tree ordered] at decoded
  refine Eq.trans decoded ?_
  cases tree.leaves.all Value.isFinite <;> rfl

structure Read (tree : Attribute) (depth : Nat) : Prop where
  ordered : tree.Ordered
  shallow : tree.toJson.depth ≤ depth
  kept : ∀ leaf ∈ tree.leaves, leaf.Kept

theorem read_list {items : List Attribute} {depth : Nat} (read : ∀ item ∈ items, item.Read depth) :
    (list items).Read (depth + 1) := by
  induction items with
  | nil => exact ⟨trivial, Nat.succ_le_succ (Nat.zero_le _), List.forall_mem_nil _⟩
  | cons item items ih =>
    obtain ⟨itemRead, itemsRead⟩ := List.forall_mem_cons.1 read
    have listRead := ih itemsRead
    refine ⟨⟨itemRead.ordered, listRead.ordered⟩, ?_, List.forall_mem_append.2 ⟨itemRead.kept, listRead.kept⟩⟩
    have itemShallow := itemRead.shallow
    have listShallow : Json.depthOfItems (toJsonItems items) + 1 ≤ depth + 1 := listRead.shallow
    change max item.toJson.depth (Json.depthOfItems (toJsonItems items)) + 1 ≤ depth + 1
    omega

theorem read_object {members : List (String × Attribute)} {depth : Nat}
    (ascending : members.Pairwise fun left right => left.1 < right.1) (read : ∀ member ∈ members, member.2.Read depth) :
    (object members).Read (depth + 1) := by
  induction members with
  | nil => exact ⟨⟨ascending, trivial⟩, Nat.succ_le_succ (Nat.zero_le _), List.forall_mem_nil _⟩
  | cons member members ih =>
    obtain ⟨itemRead, membersRead⟩ := List.forall_mem_cons.1 read
    have objectRead := ih (List.pairwise_cons.1 ascending).2 membersRead
    refine ⟨⟨ascending, itemRead.ordered, objectRead.ordered.2⟩, ?_,
      List.forall_mem_append.2 ⟨itemRead.kept, objectRead.kept⟩⟩
    have itemShallow := itemRead.shallow
    have objectShallow : Json.depthOfMembers (toJsonMembers members) + 1 ≤ depth + 1 := objectRead.shallow
    change max member.2.toJson.depth (Json.depthOfMembers (toJsonMembers members)) + 1 ≤ depth + 1
    omega

theorem read_scalar {json : Json} {depth : Nat} {tree : Attribute} (proper : json.Proper depth)
    (reads : (Value.ofJson? json).map value = some tree) : tree.Read depth := by
  obtain ⟨scalar, chosen, rfl⟩ := Option.map_eq_some_iff.1 reads
  refine ⟨trivial, ?_, List.forall_mem_singleton.2 (Value.kept_of_proper proper chosen)⟩
  rw [toJson, Value.depth_toJson]
  exact Nat.zero_le _

mutual

theorem read_of_ofJson? : ∀ {json : Json} {depth : Nat} {tree : Attribute}, json.Proper depth →
    ofJson? json = some tree → tree.Read depth
  | .array items, 0, _, proper, _ => absurd proper.shallow (Nat.not_succ_le_zero _)
  | .array items, inner + 1, _, proper, reads => by
    obtain ⟨trees, itemsRead, rfl⟩ := Option.map_eq_some_iff.1 reads
    exact read_list (readItems_of_ofJson? (Json.proper_of_mem_array proper) itemsRead)
  | .object members, 0, _, proper, _ => absurd proper.shallow (Nat.not_succ_le_zero _)
  | .object members, inner + 1, _, proper, reads => by
    obtain ⟨pairs, membersRead, rfl⟩ := Option.map_eq_some_iff.1 reads
    have pairsRead := readMembers_of_ofJson? (Json.proper_of_mem_object proper) membersRead
    exact read_object (Table.ofList pairs).ascending fun member inTable =>
      pairsRead member (Table.mem_of_mem_ofList inTable)
  | .null, _, _, proper, reads => read_scalar proper reads
  | .bool _, _, _, proper, reads => read_scalar proper reads
  | .integer _, _, _, proper, reads => read_scalar proper reads
  | .decimal _, _, _, proper, reads => read_scalar proper reads
  | .text _, _, _, proper, reads => read_scalar proper reads

theorem readItems_of_ofJson? : ∀ {items : List Json} {depth : Nat} {trees : List Attribute},
    (∀ item ∈ items, item.Proper depth) → ofJsonItems? items = some trees → ∀ tree ∈ trees, tree.Read depth
  | [], _, _, _, reads => by
    cases reads
    exact List.forall_mem_nil _
  | item :: rest, depth, trees, proper, reads => by
    obtain ⟨itemProper, restProper⟩ := List.forall_mem_cons.1 proper
    rw [ofJsonItems?] at reads
    split at reads
    · rename_i tree trees itemReads restReads
      cases reads
      exact List.forall_mem_cons.2 ⟨read_of_ofJson? itemProper itemReads, readItems_of_ofJson? restProper restReads⟩
    · cases reads

theorem readMembers_of_ofJson? : ∀ {members : List (String × Json)} {depth : Nat}
    {pairs : List (String × Attribute)}, (∀ member ∈ members, member.2.Proper depth) →
    ofJsonMembers? members = some pairs → ∀ pair ∈ pairs, pair.2.Read depth
  | [], _, _, _, reads => by
    cases reads
    exact List.forall_mem_nil _
  | (name, item) :: rest, depth, pairs, proper, reads => by
    obtain ⟨itemProper, restProper⟩ := List.forall_mem_cons.1 proper
    rw [ofJsonMembers?] at reads
    split at reads
    · rename_i tree pairs itemReads restReads
      cases reads
      exact List.forall_mem_cons.2 ⟨read_of_ofJson? itemProper itemReads, readMembers_of_ofJson? restProper restReads⟩
    · cases reads

end

theorem read_of_decode {source : String} {tree : Attribute} (decoded : decode source = .ok tree) :
    tree.Read Json.maxDepth := by
  obtain ⟨json, gives, chosen⟩ := Json.Decoder.gives_of_untagged (Json.Decoder.gives_of_decode decoded)
  exact read_of_ofJson? (Json.proper_of_gives gives) chosen

end Attribute

/-! ### Documents -/

namespace Document

theorem mapM_fields (entries : List (String × List Value)) :
    (entries.map fun entry => (entry.1, Json.array (entry.2.map Value.toJson))).mapM
        (chooseMember (chooseItems Value.ofJson?)) =
      if (entries.flatMap (·.2)).all Value.isFinite then
        some (entries.map fun entry => (entry.1, entry.2.map Value.shown))
      else none := by
  induction entries with
  | nil => rfl
  | cons entry rest ih =>
    rw [List.map_cons, List.mapM_cons, ih, chooseMember, chooseItems, Value.mapM_ofJson?_toJson, List.flatMap_cons,
      List.all_append]
    cases entry.2.all Value.isFinite <;> cases (rest.flatMap (·.2)).all Value.isFinite <;> rfl

theorem decides_values {values : List Value} {depth : Nat} (rereads : Rereads values) :
    (Json.Decoder.many (Json.Decoder.untagged "FieldValue" Value.ofJson?)).Decides (noVariant "FieldValue")
      (chooseItems Value.ofJson?) (depth + 1) (.array (values.map Value.toJson)) := by
  have itemRereads : ∀ leaf ∈ values.map Value.toJson, leaf.Rereads := by
    intro leaf member
    obtain ⟨value, inValues, rfl⟩ := List.mem_map.1 member
    exact Value.rereads_toJson rereads inValues
  refine Json.Decoder.decides_many (fun item member => ?_) (by rwa [Value.leavesOfItems_toJson])
  have leafRereads := itemRereads item member
  obtain ⟨value, -, rfl⟩ := List.mem_map.1 member
  refine Json.Decoder.decides_untagged "FieldValue" Value.ofJson? ?_ ?_
  · rw [Value.leaves_toJson]
    exact List.forall_mem_singleton.2 leafRereads
  · rw [Value.depth_toJson]
    exact Nat.zero_le _

theorem decides_fields {entries : List (String × List Value)} {depth : Nat}
    (rereads : Rereads (entries.flatMap (·.2))) :
    (Json.Decoder.map (Json.Decoder.many (Json.Decoder.untagged "FieldValue" Value.ofJson?))).Decides
      (noVariant "FieldValue") (chooseMembers (chooseItems Value.ofJson?)) (depth + 2)
      (.object (entries.map fun entry => (entry.1, .array (entry.2.map Value.toJson)))) := by
  refine Json.Decoder.decides_map fun member inObject => ?_
  obtain ⟨entry, inEntries, rfl⟩ := List.mem_map.1 inObject
  exact decides_values fun x inEntry => rereads x (List.mem_flatMap.2 ⟨entry, inEntries, inEntry⟩)

theorem decoder_eq : decoder = (Json.Decoder.map (Json.Decoder.many
    (Json.Decoder.untagged "FieldValue" Value.ofJson?))).change fun fields => ⟨Table.ofList fields⟩ := rfl

theorem decode_encode {document : Document} (rereads : Rereads document.leaves) :
    decode document.encode =
      if document.leaves.all Value.isFinite then .ok document.shown else .error (noVariant "FieldValue") := by
  have decides : decoder.Decides (noVariant "FieldValue")
      (fun json => (chooseMembers (chooseItems Value.ofJson?) json).map fun fields => ⟨Table.ofList fields⟩)
      (125 + 2) document.toJson := by
    rw [decoder_eq]
    exact (decides_fields rereads).change _
  have chosen : chooseMembers (chooseItems Value.ofJson?) document.toJson =
      if document.leaves.all Value.isFinite then
        some (document.fields.entries.map fun entry => (entry.1, entry.2.map Value.shown))
      else none := mapM_fields document.fields.entries
  refine Eq.trans decides.decode ?_
  rw [chosen]
  cases document.leaves.all Value.isFinite with
  | false => rfl
  | true => exact congrArg (Except.ok ∘ Document.mk) (Table.ofList_map (·.map Value.shown) document.fields)

theorem kept_of_decode {source : String} {document : Document} (decoded : decode source = .ok document) :
    ∀ leaf ∈ document.leaves, leaf.Kept := by
  have gives := Json.Decoder.gives_of_decode decoded
  rw [decoder_eq] at gives
  obtain ⟨fields, fieldsGiven, rfl⟩ := Json.Decoder.gives_of_change gives
  obtain ⟨inner, -, valuesGiven⟩ := Json.Decoder.gives_of_map fieldsGiven
  intro leaf inDocument
  obtain ⟨entry, inTable, inEntry⟩ := List.mem_flatMap.1 inDocument
  obtain ⟨_, -, leavesGiven⟩ := Json.Decoder.gives_of_many (valuesGiven entry (Table.mem_of_mem_ofList inTable))
  obtain ⟨json, gives, chosen⟩ := Json.Decoder.gives_of_untagged (leavesGiven leaf inEntry)
  exact Value.kept_of_proper (Json.proper_of_gives gives) chosen

end Document

/-! ### Both codecs -/

/-- Attributes that nest at most as deep as a text may, and all documents, are encoded and decoded faithfully. -/
theorem faithful_codecs :
    Faithful Attribute.encode Attribute.decode Attribute.leaves Attribute.same
        (fun tree => tree.Ordered ∧ tree.toJson.depth ≤ Json.maxDepth) ∧
      Faithful Document.encode Document.decode Document.leaves Document.same (fun _ => True) := by
  constructor
  · refine faithful_of_shown (fun tree within rereads => Attribute.decode_encode within.1 within.2 rereads)
      Attribute.shown_of_kept Attribute.same_shown fun source tree decoded => ?_
    have read := Attribute.read_of_decode decoded
    exact ⟨⟨read.ordered, read.shallow⟩, read.kept⟩
  · exact faithful_of_shown (fun document _ rereads => Document.decode_encode rereads)
      (fun _ => Document.shown_of_kept) (fun _ => Document.same_shown)
      fun source document decoded => ⟨trivial, Document.kept_of_decode decoded⟩

namespace Trial

/-- One and a half. -/
def half : Binary64 := ⟨0x3FF8000000000000⟩

/-- Ten thousand million million, a whole number. -/
def vast : Binary64 := ⟨0x4341C37937E08000⟩

def nan : Binary64 := ⟨0x7FF8000000000000⟩

theorem rereads_half : Json.number (Json.writeDecimal half) = .ok (.decimal half, []) := by
  have written : Json.writeDecimal half = ['1', '.', '5'] := by decide +kernel
  rw [written]
  rfl

theorem rereads_vast : Json.number (Json.writeDecimal vast) = .ok (.decimal vast, []) := by
  have written : Json.writeDecimal vast = ['1', 'e', '+', '1', '6'] := by decide +kernel
  rw [written]
  rfl

def shelf : Attribute :=
  .object [("", .object []), ("a\"\n", .list [.value (.decimal vast), .value (.integer Int64.minValue), .list []]),
    ("note", .value (.text "hot"))]

def dated : Attribute := .value (.text "1970-01-01T00:00:00Z")

def prices : Attribute := .list [.value (.decimal half)]

def priceless : Document := Document.empty.addValues "price" [.decimal half, .decimal nan]

theorem ordered_shelf : shelf.Ordered := by
  refine ⟨by decide, ?_⟩
  exact ⟨⟨.nil, trivial⟩, ⟨trivial, trivial, trivial, trivial⟩, trivial, trivial⟩

theorem leaves_shelf : shelf.leaves = [.decimal vast, .integer Int64.minValue, .text "hot"] := rfl

theorem rereads_shelf : Rereads shelf.leaves := by
  intro x member _
  simp only [leaves_shelf, List.mem_cons, Value.decimal.injEq, reduceCtorEq, List.not_mem_nil, or_false] at member
  rw [member]
  exact rereads_vast

theorem kept_shelf : ∀ leaf ∈ shelf.leaves, leaf.Kept := by
  simp only [leaves_shelf, List.forall_mem_cons]
  have note : Stamp.ofText? "hot" = none := by decide
  exact ⟨rfl, trivial, note, List.forall_mem_nil _⟩

theorem rereads_of_half {values : List Value} (only : ∀ x, .decimal x ∈ values → x.isFinite = true → x = half) :
    Rereads values := by
  intro x member finite
  rw [only x member finite]
  exact rereads_half

end Trial

theorem faithful_codecs_trial :
    Attribute.decode Trial.shelf.encode = .ok Trial.shelf ∧
      (¬ ∃ back, Attribute.decode Trial.dated.encode = .ok back ∧ back.same Trial.dated = true) ∧
      (∃ fault, Document.decode Trial.priceless.encode = .error fault) ∧
      Attribute.decode "[1.50]" = .ok Trial.prices ∧ Attribute.decode Trial.prices.encode = .ok Trial.prices := by
  obtain ⟨attributes, documents⟩ := faithful_codecs
  have read : Attribute.decode "[1.50]" = .ok Trial.prices := by
    have chars : "[1.50]".toList = ['[', '1', '.', '5', '0', ']'] := by decide
    unfold Attribute.decode Json.Decoder.decode
    rw [chars]
    rfl
  have datedRereads : Rereads Trial.dated.leaves := Trial.rereads_of_half (by simp [Trial.dated, Attribute.leaves])
  have pricesReread : Rereads Trial.prices.leaves :=
    Trial.rereads_of_half (by simp [Trial.prices, Attribute.leaves, Attribute.leavesOfItems])
  have pricelessRereads : Rereads Trial.priceless.leaves := by
    have leaves : Trial.priceless.leaves = [.decimal Trial.half, .decimal Trial.nan] := rfl
    refine Trial.rereads_of_half fun x member finite => ?_
    simp only [leaves, List.mem_cons, Value.decimal.injEq, List.not_mem_nil, or_false] at member
    rcases member with rfl | rfl
    · rfl
    · cases finite
  refine ⟨attributes.back Trial.shelf ⟨Trial.ordered_shelf, by decide⟩ Trial.rereads_shelf Trial.kept_shelf, ?_,
    documents.refused Trial.priceless Trial.nan trivial pricelessRereads ?_ rfl, read,
    attributes.again "[1.50]" Trial.prices read pricesReread⟩
  · rw [attributes.same_iff Trial.dated ⟨trivial, by decide⟩ datedRereads]
    intro kept
    have none : Stamp.ofText? "1970-01-01T00:00:00Z" = none := kept _ List.mem_cons_self
    exact absurd none (by decide)
  · exact List.mem_cons_of_mem _ List.mem_cons_self

end CatalogIndex
