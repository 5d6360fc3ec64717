import CatalogIndex.Proofs.Deletions
import CatalogIndex.Proofs.OnDisk
/-!
What readers find in a generation kept in memory. Commits publish what has been asked for since the last commit or
rollback, in the order of asking, so over a whole history the last document that was added for an id is there unless a
later removal matched it. Nothing else that is asked for changes what readers see.
-/
namespace CatalogIndex

theorem Table.find?_filter {α : Type} {table : Table α} {test : String → α → Bool} {key : String} {value : α} :
    (table.filter test).find? key = some value ↔ table.find? key = some value ∧ test key value = true := by
  obtain ⟨entries, ascending⟩ := table
  unfold filter find?
  dsimp only
  induction entries with
  | nil => simp [seek]
  | cons entry rest ih =>
    obtain ⟨name, held⟩ := entry
    obtain ⟨above, later⟩ := List.pairwise_cons.1 ascending
    rw [List.filter_cons]
    by_cases hit : key = name
    · subst hit
      -- The entries behind this one have other keys, so none of them can take its place.
      have gone : seek key (rest.filter fun entry => test entry.1 entry.2) = none :=
        seek_eq_none_of_lt fun entry member => above entry (List.mem_filter.1 member).1
      by_cases kept : test key held = true
      · have passes : held = value → test key value = true := fun same => same ▸ kept
        simpa [seek, kept] using passes
      · have fails : held = value → test key value = false := fun same => same ▸ Bool.eq_false_iff.2 kept
        simpa [seek, kept, gone] using fails
    · by_cases kept : test name held = true
      · simp [seek, kept, hit, ih later]
      · simp [seek, kept, hit, ih later]

namespace Change

variable {documents : Table Document} {id field text : String} {document : Document}

theorem find?_apply_add {other : Document} : ((add other).apply documents).find? id = some document ↔
    (other = document ∧ document.id? = some id) ∨ (documents.find? id = some document ∧ other.id? ≠ some id) := by
  cases named : other.id? with
  | none =>
    have kept : (add other).apply documents = documents := by simp only [apply, named]
    have differs : ¬ (other = document ∧ document.id? = some id) := by
      rintro ⟨rfl, same⟩
      rw [named] at same
      cases same
    simp [kept, differs]
  | some name =>
    have entered : (add other).apply documents = documents.insert name other := by simp only [apply, named]
    rw [entered, Table.find?_insert]
    by_cases hit : id = name
    · subst hit
      have own : other = document → document.id? = some id := fun same => same ▸ named
      simpa using own
    · have differs : other = document → document.id? ≠ some id := by
        rintro rfl same
        exact hit (Option.some.inj (same.symm.trans named))
      simp only [hit, if_false, ne_eq, Option.some.injEq, Ne.symm hit, not_false_iff, and_true, iff_or_self]
      exact fun both => absurd both.2 (differs both.1)

theorem find?_apply_remove : ((remove field text).apply documents).find? id = some document ↔
    documents.find? id = some document ∧ shows field text document = false := by
  have kept : (apply documents (remove field text)).find? id = some document ↔
      documents.find? id = some document ∧ (!shows field text document) = true := Table.find?_filter
  rw [kept, Bool.not_eq_true']

end Change

inductive Event where
  | added (document : Document)
  | deleted (query : String)

namespace Event

def apply (documents : Table Document) : Event → Table Document
  | added document => (Change.add document).apply documents
  | deleted query =>
    match Change.ofQuery? query with
    | some change => change.apply documents
    | none => documents

/-- Events that leave a document where it stands: they add no other one for its id, and no removal matches it. -/
structure Spare (events : List Event) (id : String) (document : Document) : Prop where
  unreplaced : ∀ other, .added other ∈ events → other.id? ≠ some id
  unmatched : ∀ query, .deleted query ∈ events → ¬ Deletion.Matches query document

/-- The document that some events leave under an id: the last one that they add for the id, spared by all removals
behind it. -/
def Leave (events : List Event) (id : String) (document : Document) : Prop :=
  ∃ before after, events = before ++ added document :: after ∧ document.id? = some id ∧ Spare after id document

variable {events : List Event} {event : Event} {documents : Table Document} {id query : String} {document : Document}

theorem spare_nil : Spare [] id document := ⟨nofun, nofun⟩

theorem spare_cons : Spare (event :: events) id document ↔ Spare [event] id document ∧ Spare events id document := by
  constructor
  · intro spare
    exact ⟨⟨fun other member => spare.unreplaced other (by simp_all), fun query member =>
        spare.unmatched query (by simp_all)⟩,
      ⟨fun other member => spare.unreplaced other (List.mem_cons_of_mem _ member),
        fun query member => spare.unmatched query (List.mem_cons_of_mem _ member)⟩⟩
  · rintro ⟨first, rest⟩
    refine ⟨fun other member => ?_, fun query member => ?_⟩
    · rcases List.mem_cons.1 member with same | later
      · exact first.unreplaced other (same ▸ List.mem_singleton_self _)
      · exact rest.unreplaced other later
    · rcases List.mem_cons.1 member with same | later
      · exact first.unmatched query (same ▸ List.mem_singleton_self _)
      · exact rest.unmatched query later

theorem spare_added {other : Document} : Spare [added other] id document ↔ other.id? ≠ some id := by
  constructor
  · intro spare
    exact spare.unreplaced other (List.mem_singleton_self _)
  · intro differs
    refine ⟨fun _ member => ?_, fun _ member => ?_⟩
    · cases List.mem_singleton.1 member
      exact differs
    · cases List.mem_singleton.1 member

theorem spare_deleted : Spare [deleted query] id document ↔ ¬ Deletion.Matches query document := by
  constructor
  · intro spare
    exact spare.unmatched query (List.mem_singleton_self _)
  · intro misses
    refine ⟨fun _ member => ?_, fun _ member => ?_⟩
    · cases List.mem_singleton.1 member
    · cases List.mem_singleton.1 member
      exact misses

theorem leave_cons : Leave (event :: events) id document ↔
    (event = added document ∧ document.id? = some id ∧ Spare events id document) ∨ Leave events id document := by
  constructor
  · rintro ⟨before, after, whole, named, spare⟩
    cases before with
    | nil =>
      obtain ⟨rfl, rfl⟩ := List.cons.inj whole
      exact .inl ⟨rfl, named, spare⟩
    | cons first others => exact .inr ⟨others, after, (List.cons.inj whole).2, named, spare⟩
  · rintro (⟨rfl, named, spare⟩ | ⟨before, after, rfl, named, spare⟩)
    · exact ⟨[], events, rfl, named, spare⟩
    · exact ⟨event :: before, after, rfl, named, spare⟩

theorem find?_apply_deleted : (apply documents (deleted query)).find? id = some document ↔
    documents.find? id = some document ∧ ¬ Deletion.Matches query document := by
  have asks := Deletion.asks_ofQuery? query
  unfold apply
  dsimp only
  generalize Change.ofQuery? query = asked at asks
  cases asks with
  | all isForAll =>
    have everything : Deletion.Matches query document := .inl isForAll
    simp [Change.apply, everything]
  | field notForAll isFor =>
    dsimp only
    rw [Change.find?_apply_remove, ← Bool.not_eq_true, isFor.matches_iff notForAll]
  | nothing unsupported =>
    simp [Deletion.not_matches unsupported]

theorem find?_apply : (event.apply documents).find? id = some document ↔
    (event = added document ∧ document.id? = some id) ∨
      (documents.find? id = some document ∧ Spare [event] id document) := by
  cases event with
  | added other => rw [spare_added, Event.added.injEq, ← Change.find?_apply_add, apply]
  | deleted query => simp [spare_deleted, find?_apply_deleted]

theorem find?_foldl_apply : (events.foldl apply documents).find? id = some document ↔
    Leave events id document ∨ (documents.find? id = some document ∧ Spare events id document) := by
  induction events generalizing documents with
  | nil => simp [Leave, spare_nil]
  | cons event rest ih =>
    have spare := @spare_cons rest event id document
    rw [List.foldl_cons, ih, find?_apply, leave_cons, spare]
    tauto

end Event

namespace Operation

/-- What an operation asks for that waits. Of a batch it is the documents before the first one without an id. -/
def events : Operation → List Event
  | add documents => (documents.takeWhile fun document => document.id?.isSome).map .added
  | delete query => [.deleted query]
  | commit | rollback | optimize => []

/-- Whether what waits before some operations is committed by them, which it is unless a rollback comes first. -/
def publish : List Operation → Bool
  | [] => false
  | commit :: _ => true
  | rollback :: _ => false
  | _ :: rest => publish rest

def published : List Operation → List Event
  | [] => []
  | operation :: rest => if publish rest then operation.events ++ published rest else published rest

theorem published_cons (operation : Operation) (rest : List Operation) : published (operation :: rest) =
    if publish rest then operation.events ++ published rest else published rest := rfl

theorem publish_cons {operation : Operation} (noCommit : operation ≠ commit) (noRollback : operation ≠ rollback)
    (rest : List Operation) : publish (operation :: rest) = publish rest := by
  cases operation with
  | commit => exact absurd rfl noCommit
  | rollback => exact absurd rfl noRollback
  | _ => rfl

theorem unpublished_of_not_mem {operations : List Operation} (uncommitted : .commit ∉ operations) :
    publish operations = false ∧ published operations = [] := by
  induction operations with
  | nil => exact ⟨rfl, rfl⟩
  | cons operation rest ih =>
    obtain ⟨none, nothing⟩ := ih fun member => uncommitted (List.mem_cons_of_mem _ member)
    refine ⟨?_, by simp [published_cons, none, nothing]⟩
    by_cases drops : operation = rollback
    · rw [drops]
      rfl
    · rw [publish_cons (fun same => uncommitted (same ▸ List.mem_cons_self)) drops, none]

end Operation

theorem Engine.performAll_append {γ : Type} [Engine γ] (first second : List Operation) (engine : γ) :
    (performAll (first ++ second) engine).2 = (performAll second (performAll first engine).2).2 := by
  induction first generalizing engine with
  | nil => rfl
  | cons operation rest ih => exact ih _

namespace Memory

variable {memory : Memory}

theorem perform_waiting {operation : Operation} (noCommit : operation ≠ .commit) (noRollback : operation ≠ .rollback)
    (memory : Memory) : (perform operation memory).2.committed = memory.committed ∧
      (perform operation memory).2.settled = operation.events.foldl Event.apply memory.settled := by
  cases operation with
  | commit => exact absurd rfl noCommit
  | rollback => exact absurd rfl noRollback
  | optimize => exact ⟨rfl, rfl⟩
  | add documents =>
    refine ⟨rfl, ?_⟩
    have waits : (perform (.add documents) memory).2.pending =
        memory.pending ++ (documents.takeWhile fun document => document.id?.isSome).map .add := rfl
    unfold settled Operation.events
    rw [waits, List.foldl_append, List.foldl_map, List.foldl_map]
    rfl
  | delete query =>
    unfold perform Operation.events
    simp only [List.foldl_cons, List.foldl_nil, Event.apply]
    cases Change.ofQuery? query with
    | none => exact ⟨rfl, rfl⟩
    | some change => exact ⟨rfl, by simp [settled]⟩

/-- Behind a commit or a rollback nothing waits, and what waited is committed by the one and lost by the other. -/
theorem perform_settling {operation : Operation} (settles : operation = .commit ∨ operation = .rollback)
    (rest : List Operation) (memory : Memory) :
    (perform operation memory).2.settled = (perform operation memory).2.committed ∧ operation.events = [] ∧
      (perform operation memory).2.committed =
        if Operation.publish (operation :: rest) then memory.settled else memory.committed := by
  rcases settles with rfl | rfl
  · exact ⟨rfl, rfl, rfl⟩
  · exact ⟨rfl, rfl, rfl⟩

theorem committed_performAll (operations : List Operation) (memory : Memory) :
    (Engine.performAll operations memory).2.committed = (Operation.published operations).foldl Event.apply
      (if Operation.publish operations then memory.settled else memory.committed) := by
  induction operations generalizing memory with
  | nil => rfl
  | cons operation rest ih =>
    have step : (Engine.performAll (operation :: rest) memory).2 =
        (Engine.performAll rest (perform operation memory).2).2 := rfl
    rw [step, ih, Operation.published_cons]
    by_cases settles : operation = .commit ∨ operation = .rollback
    · obtain ⟨same, none, kept⟩ := perform_settling settles rest memory
      rw [same, none, ite_self, List.nil_append, ite_self, kept]
    · rw [not_or] at settles
      obtain ⟨kept, waits⟩ := perform_waiting settles.1 settles.2 memory
      rw [Operation.publish_cons settles.1 settles.2, kept, waits]
      cases Operation.publish rest with
      | true => simp
      | false => rfl

structure Shows (events : List Event) (memory : Memory) : Prop where
  find (id : String) : ∃ found, Engine.find memory id = .ok found ∧
    ∀ document, found = some document ↔ Event.Leave events id document
  own {id : String} {document : Document} (found : Engine.find memory id = .ok (some document)) :
    document.id? = some id
  ids (id : String) : id ∈ memory.ids ↔ ∃ document, Event.Leave events id document
  ascending : memory.ids.Pairwise (· < ·)
  count : Engine.count memory = memory.ids.length

theorem shows_of_committed {events : List Event} (same : memory.committed = events.foldl Event.apply .empty) :
    Shows events memory := by
  have leaves (id : String) (document : Document) :
      memory.committed.find? id = some document ↔ Event.Leave events id document := by
    rw [same, Event.find?_foldl_apply]
    simp
  refine ⟨fun id => ⟨_, rfl, leaves id⟩, fun {id document} found => ?_, fun id => ?_, ?_, ?_⟩
  · obtain ⟨-, -, -, named, -⟩ := (leaves id document).1 (Except.ok.inj found)
    exact named
  · unfold ids
    rw [Table.mem_keys, Option.isSome_iff_exists]
    exact exists_congr (leaves id)
  · exact List.pairwise_map.2 memory.committed.ascending
  · exact (List.length_map _).symm

/-- Over every history of a generation that starts empty, readers see under each id the document that was added for it
last and committed, unless a removal that was asked for later and committed matches it. Only commits change what they
see. A delete query that is for nothing is refused and leaves everything as it is. -/
theorem last_writer_wins (history : List Operation) :
    Shows (Operation.published history) (Engine.performAll history Memory.empty).2 ∧
      (∀ later, .commit ∉ later →
        Engine.count (Engine.performAll (history ++ later) Memory.empty).2 =
            Engine.count (Engine.performAll history Memory.empty).2 ∧
          (∀ id, Engine.find (Engine.performAll (history ++ later) Memory.empty).2 id =
            Engine.find (Engine.performAll history Memory.empty).2 id) ∧
          (Engine.performAll (history ++ later) Memory.empty).2.ids =
            (Engine.performAll history Memory.empty).2.ids) ∧
      ∀ (memory : Memory) query,
        (Deletion.Supported query → (Engine.perform (.delete query) memory).1 = .ok ()) ∧
        (¬ Deletion.Supported query →
          Engine.perform (.delete query) memory = (.error (.unsupportedQuery query), memory)) := by
  refine ⟨shows_of_committed ?_, fun later uncommitted => ?_, fun memory query => ?_⟩
  · have published := committed_performAll history Memory.empty
    rwa [show Memory.empty.settled = Memory.empty.committed from rfl, ite_self] at published
  · obtain ⟨none, nothing⟩ := Operation.unpublished_of_not_mem uncommitted
    have kept := committed_performAll later (Engine.performAll history Memory.empty).2
    rw [none, nothing, ← Engine.performAll_append] at kept
    exact ⟨congrArg Table.size kept, fun id => congrArg (fun documents => Except.ok (documents.find? id)) kept,
      congrArg Table.keys kept⟩
  · change (_ → (perform _ _).1 = _) ∧ (_ → perform _ _ = _)
    have asks := Deletion.asks_ofQuery? query
    unfold perform
    dsimp only
    generalize Change.ofQuery? query = asked at asks
    cases asks with
    | all isForAll => exact ⟨fun _ => rfl, fun unsupported => absurd (.inl isForAll) unsupported⟩
    | field _ isFor => exact ⟨fun _ => rfl, fun unsupported => absurd (.inr ⟨_, _, isFor⟩) unsupported⟩
    | nothing unsupported => exact ⟨fun supported => absurd supported unsupported, fun _ => rfl⟩

end Memory

namespace Trial

def fruit (id color : String) : Document :=
  (Document.empty.addField Document.idField (.text id)).addField "color" (.text color)

/-- A removal is rolled back, a batch breaks off at a document without an id, another removal is committed, and in the
end two requests wait for ever. -/
def market : List Operation :=
  [.add [fruit "a" "red", fruit "b" "blue"], .commit, .delete "color:red", .rollback,
    .add [fruit "a" "green", .empty, fruit "a" "red"], .delete "color:blue", .commit, .delete "  *:*",
    .add [fruit "c" "red"]]

end Trial

namespace Memory

theorem last_writer_wins_trial :
    Event.Leave (Operation.published Trial.market) "a" (Trial.fruit "a" "green") ∧
      (¬ ∃ document, Event.Leave (Operation.published Trial.market) "b" document) ∧
      Engine.count (Engine.performAll (Trial.market ++ [.optimize, .rollback]) Memory.empty).2 = 1 ∧
      Deletion.Supported "color:blue" ∧ ¬ Deletion.Supported ":blue" := by
  obtain ⟨shows, still, queries⟩ := last_writer_wins Trial.market
  obtain ⟨found, holds, leaves⟩ := shows.find "a"
  obtain rfl : some (Trial.fruit "a" "green") = found := Except.ok.inj holds
  refine ⟨(leaves _).1 rfl, fun left => ?_, (still _ (by decide)).1.trans (by decide), ?_, fun supported => ?_⟩
  · exact absurd ((shows.ids "b").2 left) (by decide)
  · by_contra unsupported
    exact absurd (congrArg Prod.fst ((queries .empty _).2 unsupported)) (by decide)
  · exact absurd ((queries .empty _).1 supported) (by decide)

end Memory
end CatalogIndex
