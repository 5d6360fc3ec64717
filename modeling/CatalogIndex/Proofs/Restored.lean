import CatalogIndex.Proofs.Codec
import CatalogIndex.Proofs.OnDisk
import CatalogIndex.Proofs.Timestamps
/-!
Documents that come back from an on-disk generation. The stored object is written twice and held by a column in
between, which respells timestamps. None of this changes what its values show, so a document comes back without its
empty fields and with each value as JSON shows it, or not at all if one of its decimals is not finite.
-/
namespace CatalogIndex

/-! ### Values that are added one by one -/

namespace Table

variable {α : Type}

theorem seek_of_above {key : String} {entries : List (String × α)} (above : ∀ entry ∈ entries, entry.1 < key) :
    seek key entries = none := by
  induction entries with
  | nil => rfl
  | cons first rest ih =>
    obtain ⟨less, later⟩ := List.forall_mem_cons.1 above
    have differ : key ≠ first.1 := fun same => String.lt_irrefl _ (same ▸ less)
    unfold seek
    rw [if_neg differ]
    exact ih later

theorem insert_insert (table : Table α) (key : String) (first second : α) :
    (table.insert key first).insert key second = table.insert key second := by
  refine ext_find? fun other => ?_
  simp only [find?_insert]
  split <;> rfl

end Table

namespace Document

theorem addValues_addValues (document : Document) (name : String) (first second : List Value) :
    (document.addValues name first).addValues name second = document.addValues name (first ++ second) := by
  simp only [addValues, Table.alter, Table.find?_insert_self, Table.insert_insert, Option.getD_some, List.append_assoc]

/-- Appends values to a field one by one; without values there is no field. -/
def addEach (document : Document) (name : String) (values : List Value) : Document :=
  values.foldl (fun document value => document.addField name value) document

theorem addEach_cons (document : Document) (name : String) (value : Value) (rest : List Value) :
    document.addEach name (value :: rest) = document.addValues name (value :: rest) := by
  induction rest generalizing document value with
  | nil => rfl
  | cons next rest ih =>
    change (document.addField name value).addEach name (next :: rest) = _
    rw [ih, addField, addValues_addValues]
    rfl

theorem entries_addEach {document : Document} {name : String} (values : List Value)
    (above : ∀ entry ∈ document.fields.entries, entry.1 < name) :
    (document.addEach name values).fields.entries =
      document.fields.entries ++ [(name, values)].filter fun entry => !entry.2.isEmpty := by
  cases values with
  | nil => exact (List.append_nil _).symm
  | cons value rest =>
    have absent : document.fields.find? name = none := Table.seek_of_above above
    rw [addEach_cons]
    change Table.place name ((document.fields.find? name).getD [] ++ value :: rest) document.fields.entries = _
    rw [absent, Table.place_of_above above]
    rfl

theorem entries_foldl_addEach {document : Document} {fields : List (String × List Value)}
    (ascending : (document.fields.entries ++ fields).Pairwise fun left right => left.1 < right.1) :
    (fields.foldl (fun document field => document.addEach field.1 field.2) document).fields.entries =
      document.fields.entries ++ fields.filter fun entry => !entry.2.isEmpty := by
  induction fields generalizing document with
  | nil => exact (List.append_nil _).symm
  | cons field rest ih =>
    have above : ∀ entry ∈ document.fields.entries, entry.1 < field.1 := fun entry member =>
      (List.pairwise_append.1 ascending).2.2 entry member field List.mem_cons_self
    have entries := entries_addEach field.2 above
    have later : ((document.addEach field.1 field.2).fields.entries ++ rest).Pairwise
        fun left right => left.1 < right.1 := by
      rw [entries, List.append_assoc]
      refine ascending.sublist (List.Sublist.append_left ?_ _)
      exact List.Sublist.append_right List.filter_sublist rest
    rw [List.foldl_cons, ih later, entries, List.append_assoc, ← List.filter_append]
    rfl

/-- A document without its empty fields, each value as JSON shows it. -/
def remaining (document : Document) : Document :=
  ⟨document.shown.fields.filter fun _ values => !values.isEmpty⟩

theorem foldl_addEach_shown (document : Document) :
    (document.shown.fields.entries.foldl (fun document field => document.addEach field.1 field.2) .empty) =
      document.remaining :=
  congrArg mk (Table.ext (entries_foldl_addEach document.shown.fields.ascending))

end Document

/-! ### What comes back of a value -/

/-- Whether a column at most respells the texts of some values: what it takes for a timestamp is read as an instant that
it can hold. -/
def Respells (values : List Value) : Prop :=
  ∀ value ∈ values, ∀ source count, value.toJson = .text source → Timestamp.ofText? source = some count →
    ∃ instant, Stamp.ofText? source = some instant ∧ instant.Held

namespace Stored

/-- What comes back of a tree that is written, held by a column and written again. -/
def back (tree : Json) : Json := (hold tree.reread).reread

theorem back_array (items : List Json) : back (.array items) = .array (items.map back) := by
  simp only [back, hold, Json.reread, Json.mapLeaves, Json.mapItems_eq_map, List.map_map]
  rfl

theorem back_object (members : List (String × Json)) :
    back (.object members) = .object (members.map fun member => (member.1, back member.2)) := by
  simp only [back, hold, Json.reread, Json.mapLeaves, Json.mapMembers_eq_map, List.map_map]
  rfl

variable {values : List Value} {value : Value}

theorem ofJson?_back_text {source : String}
    (respells : ∀ count, Timestamp.ofText? source = some count →
      ∃ instant, Stamp.ofText? source = some instant ∧ instant.Held) :
    Value.ofJson? (back (.text source)) = Value.ofJson? (.text source) := by
  change Value.ofJson? (.text (((Timestamp.ofText? source).map Timestamp.text).getD source)) = _
  cases strict : Timestamp.ofText? source with
  | none => rfl
  | some count =>
    obtain ⟨instant, lenient, held⟩ := respells count strict
    have respelled := Timestamp.ofText?_respelled strict lenient held
    simp only [Option.map_some, Option.getD_some, Value.ofJson?, lenient, respelled]

theorem rereadDecimal_of_rereads (rereads : Rereads values) {x : Binary64} (member : .decimal x ∈ values)
    (finite : x.isFinite = true) : Json.rereadDecimal x = .decimal x := by
  unfold Json.rereadDecimal
  rw [rereads x member finite]

theorem ofJson?_back (rereads : Rereads values) (respells : Respells values) (member : value ∈ values) :
    Value.ofJson? (back value.toJson) = if value.isFinite then some value.shown else none := by
  rw [← Value.ofJson?_toJson]
  cases value with
  | boolean value => rfl
  | integer n => rfl
  | decimal x =>
    cases finite : x.isFinite with
    | false => simp [Value.toJson, finite, back, hold, Json.reread, Json.mapLeaves, Json.rereadLeaf, holdLeaf]
    | true =>
      have reread := rereadDecimal_of_rereads rereads member finite
      simp only [Value.toJson, finite, if_true, back, hold, Json.reread, Json.mapLeaves, Json.rereadLeaf, reread,
        holdLeaf]
  | date instant => exact ofJson?_back_text fun count => respells _ member _ count rfl
  | text source => exact ofJson?_back_text fun count => respells _ member _ count rfl

/-! ### What comes back of a document -/

def unfit : SearchError := .serialization "data did not match any variant of untagged enum FieldValue"

theorem foldlM_restoreValue (name : String) (document : Document)
    (shows : ∀ value ∈ values,
      Value.ofJson? (back value.toJson) = if value.isFinite then some value.shown else none) :
    (values.map fun value => back value.toJson).foldlM (restoreValue name) document =
      if values.all Value.isFinite then .ok (document.addEach name (values.map Value.shown)) else .error unfit := by
  induction values generalizing document with
  | nil => rfl
  | cons value rest ih =>
    obtain ⟨valueShows, restShow⟩ := List.forall_mem_cons.1 shows
    rw [List.map_cons, List.foldlM_cons, restoreValue, valueShows, List.all_cons]
    cases value.isFinite with
    | false => rfl
    | true => exact ih (document.addField name value.shown) restShow

theorem foldlM_restore {entries : List (String × List Value)} (document : Document)
    (shows : ∀ value ∈ entries.flatMap (·.2),
      Value.ofJson? (back value.toJson) = if value.isFinite then some value.shown else none) :
    (entries.map fun entry => (entry.1, Json.array (entry.2.map fun value => back value.toJson))).foldlM
        (fun document member => (valuesOf member.2).foldlM (restoreValue member.1) document) document =
      if (entries.flatMap (·.2)).all Value.isFinite then
        .ok ((entries.map fun entry => (entry.1, entry.2.map Value.shown)).foldl
          (fun document field => document.addEach field.1 field.2) document)
      else .error unfit := by
  induction entries generalizing document with
  | nil => rfl
  | cons entry rest ih =>
    obtain ⟨entryShows, restShow⟩ := List.forall_mem_append.1 shows
    rw [List.map_cons, List.foldlM_cons, valuesOf, foldlM_restoreValue entry.1 document entryShows, List.flatMap_cons,
      List.all_append]
    cases entry.2.all Value.isFinite with
    | false => rfl
    | true => exact ih (document.addEach entry.1 (entry.2.map Value.shown)) restShow

theorem fields_of_ofDocument {document : Document} {stored : Stored} (stores : ofDocument document = .ok stored) :
    stored.fields = hold document.toJson.reread := by
  unfold ofDocument at stores
  split at stores
  · cases stores
  · split at stores
    · cases stores
    · split at stores
      · cases stores
      · cases stores
        rfl

theorem identified_of_ofDocument {document : Document} {stored : Stored} (stores : ofDocument document = .ok stored) :
    document.Identified := by
  unfold ofDocument at stores
  split at stores
  · cases stores
  · rename_i hasId
    split at stores
    · cases stores
    · rename_i hasNameSpace
      split at stores
      · cases stores
      · rename_i hasItemId
        exact ⟨Option.isSome_of_eq_some hasId, Option.isSome_of_eq_some hasNameSpace,
          Option.isSome_of_eq_some hasItemId⟩

theorem back_toJson (document : Document) :
    back document.toJson = .object (document.fields.entries.map fun entry =>
      (entry.1, .array (entry.2.map fun value => back value.toJson))) := by
  have item (entry : String × List Value) : back (.array (entry.2.map Value.toJson)) =
      .array (entry.2.map fun value => back value.toJson) := by
    rw [back_array, List.map_map]
    rfl
  rw [Document.toJson, back_object, List.map_map]
  exact congrArg Json.object (List.map_congr_left fun entry _ => Prod.ext rfl (item entry))

theorem toDocument_of_ofDocument {document : Document} {stored : Stored} (stores : ofDocument document = .ok stored)
    (rereads : Rereads document.leaves) (respells : Respells document.leaves) :
    stored.toDocument =
      if document.leaves.all Value.isFinite then .ok document.remaining else .error unfit := by
  have ascending : (document.fields.entries.map fun entry =>
      (entry.1, Json.array (entry.2.map fun value => back value.toJson))).Pairwise
        fun left right => left.1 < right.1 := List.pairwise_map.2 document.fields.ascending
  have column : stored.toDocument = shown (some (back document.toJson)) := by
    unfold toDocument
    rw [fields_of_ofDocument stores]
    rfl
  rw [column, back_toJson, shown, Table.entries_ofList ascending, restore,
    foldlM_restore .empty fun value member => ofJson?_back rereads respells member]
  rw [← Document.foldl_addEach_shown]
  rfl

/-- Whether a document can be stored depends on the fields that identify it. What is stored comes back without the empty
fields and with each value as JSON shows it if all decimals are finite, and fails to come back otherwise. -/
theorem returns_remaining (document : Document) :
    ((∃ stored, ofDocument document = .ok stored) ↔ document.Identified) ∧
      ∀ stored, ofDocument document = .ok stored → Rereads document.leaves → Respells document.leaves →
        ((∀ x, .decimal x ∈ document.leaves → x.isFinite = true) → stored.toDocument = .ok document.remaining) ∧
        ((∃ x, .decimal x ∈ document.leaves ∧ x.isFinite = false) →
          ∃ detail, stored.toDocument = .error (.serialization detail)) := by
  refine ⟨⟨fun ⟨_, stores⟩ => identified_of_ofDocument stores, exists_ofDocument⟩, ?_⟩
  intro stored stores rereads respells
  have returned := toDocument_of_ofDocument stores rereads respells
  refine ⟨fun finite => ?_, fun ⟨x, member, infinite⟩ => ?_⟩
  · rw [returned, if_pos (Value.all_isFinite.2 finite)]
  · have notAll : ¬ document.leaves.all Value.isFinite = true := Value.not_all_isFinite member infinite
    rw [returned, if_neg notAll]
    exact ⟨_, rfl⟩

end Stored

namespace Trial

def labelled : Document :=
  ((sauce.addValues "tags" []).addField "made" (.text "1970-01-01 00:00:00Z")).addValues "price"
    [.decimal vast, .decimal half]

def relabelled : Document :=
  (sauce.addField "made" (.date .epoch)).addValues "price" [.decimal vast, .decimal half]

def mispriced : Document := labelled.addField "price" (.decimal nan)

theorem leaves_labelled : labelled.leaves = [.text "catalog_1", .integer 1, .text "1970-01-01 00:00:00Z",
    .text "catalog", .decimal vast, .decimal half] := by decide

theorem leaves_mispriced : mispriced.leaves = labelled.leaves ++ [.decimal nan] := by decide

theorem held_epoch : Instant.epoch.Held := ⟨by decide, by decide, by decide⟩

theorem rereads_mispriced : Rereads mispriced.leaves := by
  intro x member finite
  simp only [leaves_mispriced, leaves_labelled, List.mem_append, List.mem_cons, Value.decimal.injEq, reduceCtorEq,
    List.not_mem_nil, or_false, false_or] at member
  rcases member with (rfl | rfl) | rfl
  · exact rereads_vast
  · exact rereads_half
  · cases finite

theorem respells_mispriced : Respells mispriced.leaves := by
  have id : Timestamp.ofText? "catalog_1" = none := by decide
  have nameSpace : Timestamp.ofText? "catalog" = none := by decide
  have made : Stamp.ofText? "1970-01-01 00:00:00Z" = some .epoch := by decide
  intro value member source count shows strict
  simp only [leaves_mispriced, leaves_labelled, List.mem_append, List.mem_cons, List.not_mem_nil, or_false] at member
  rcases member with (rfl | rfl | rfl | rfl | rfl | rfl) | rfl
  · cases shows
    rw [id] at strict
    cases strict
  · cases shows
  · cases shows
    exact ⟨.epoch, made, held_epoch⟩
  · cases shows
    rw [nameSpace] at strict
    cases strict
  · cases shows
  · cases shows
  · cases shows

end Trial

theorem Stored.returns_remaining_trial :
    ∃ stored other, ofDocument Trial.labelled = .ok stored ∧ stored.toDocument = .ok Trial.relabelled ∧
      ofDocument Trial.mispriced = .ok other ∧ ∃ detail, other.toDocument = .error (.serialization detail) := by
  have within : ∀ leaf ∈ Trial.labelled.leaves, leaf ∈ Trial.mispriced.leaves := by
    rw [Trial.leaves_mispriced]
    exact fun leaf => List.mem_append_left _
  have rereads : Rereads Trial.labelled.leaves := fun x member => Trial.rereads_mispriced x (within _ member)
  have respells : Respells Trial.labelled.leaves := fun value member => Trial.respells_mispriced value (within _ member)
  have finite : ∀ x, .decimal x ∈ Trial.labelled.leaves → x.isFinite = true := Value.all_isFinite.1 (by decide)
  have broken : .decimal Trial.nan ∈ Trial.mispriced.leaves := by
    rw [Trial.leaves_mispriced]
    exact List.mem_append_right _ List.mem_cons_self
  have remaining : Trial.labelled.remaining = Trial.relabelled := by decide
  obtain ⟨accepts, returns⟩ := returns_remaining Trial.labelled
  obtain ⟨stillAccepts, fails⟩ := returns_remaining Trial.mispriced
  obtain ⟨stored, stores⟩ := accepts.2 ⟨by decide, by decide, by decide⟩
  obtain ⟨other, otherStores⟩ := stillAccepts.2 ⟨by decide, by decide, by decide⟩
  have returned := (returns stored stores rereads respells).1 finite
  rw [remaining] at returned
  exact ⟨stored, other, stores, returned, otherStores,
    (fails other otherStores Trial.rereads_mispriced Trial.respells_mispriced).2 ⟨_, broken, rfl⟩⟩

end CatalogIndex
