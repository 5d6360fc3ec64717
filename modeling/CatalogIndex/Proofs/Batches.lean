import CatalogIndex.Proofs.LastWriter
/-!
Batches are written whole or not at all. A batch that fails leaves nothing behind that waits, so whatever is asked of
the generation afterwards, a document of the batch comes to readers only by being added again.
-/
namespace CatalogIndex

theorem Change.add_of_find? {changes : List Change} {documents : Table Document} {id : String} {document : Document}
    (found : (changes.foldl Change.apply documents).find? id = some document) :
    documents.find? id = some document ∨ .add document ∈ changes := by
  induction changes generalizing documents with
  | nil => exact .inl found
  | cons change rest ih =>
    rcases ih found with there | later
    · cases change with
      | add other =>
        rcases find?_apply_add.1 there with ⟨rfl, -⟩ | ⟨there, -⟩
        · exact .inr List.mem_cons_self
        · exact .inl there
      | clear => cases there
      | remove field text => exact .inl (find?_apply_remove.1 there).1
    · exact .inr (List.mem_cons_of_mem _ later)

def Operation.additions (operations : List Operation) : List Document :=
  operations.flatMap fun
    | .add documents => documents
    | .commit | .rollback | .optimize | .delete _ => []

theorem Operation.exists_of_additions {operations : List Operation} {document : Document}
    (member : document ∈ additions operations) : ∃ batch, .add batch ∈ operations ∧ document ∈ batch := by
  obtain ⟨operation, asked, added⟩ := List.mem_flatMap.1 member
  cases operation with
  | add batch => exact ⟨batch, asked, added⟩
  | _ => cases added

theorem Maintenance.serves_exec {γ α : Type} [Engine γ] (maintenance : Maintenance α) (engine : γ) :
    Serves engine (maintenance.transcript Engine.perform engine) (maintenance.exec Engine.perform engine).2 := by
  induction maintenance generalizing engine with
  | done answer => exact .nil engine
  | ask operation next ih => exact .cons (ih _ _)

namespace Memory

/-- A memory that shows nothing but what was there at first and what has been added since. -/
structure Confined (first : Table Document) (additions : List Document) (memory : Memory) : Prop where
  committed {id : String} {document : Document} (found : memory.committed.find? id = some document) :
    first.find? id = some document ∨ document ∈ additions
  pending {document : Document} (waits : .add document ∈ memory.pending) : document ∈ additions

variable {first : Table Document} {additions : List Document} {memory : Memory}

theorem Confined.mono {more : List Document} (confined : Confined first additions memory)
    (subset : additions ⊆ more) : Confined first more memory :=
  ⟨fun found => (confined.committed found).imp_right fun member => subset member,
    fun waits => subset (confined.pending waits)⟩

theorem Confined.perform (confined : Confined first additions memory) (operation : Operation) :
    Confined first (additions ++ Operation.additions [operation]) (perform operation memory).2 := by
  have kept := confined.mono (List.subset_append_left additions (Operation.additions [operation]))
  cases operation with
  | add documents =>
    refine ⟨kept.committed, fun {document} waits => ?_⟩
    rcases List.mem_append.1 waits with before | added
    · exact kept.pending before
    · obtain ⟨_, accepted, same⟩ := List.mem_map.1 added
      cases same
      refine List.mem_append_right _ ?_
      simpa [Operation.additions] using (List.takeWhile_prefix _).mem accepted
  | commit =>
    refine ⟨fun found => ?_, fun waits => absurd waits List.not_mem_nil⟩
    rcases Change.add_of_find? found with before | added
    · exact kept.committed before
    · exact .inr (kept.pending added)
  | rollback => exact ⟨kept.committed, fun waits => absurd waits List.not_mem_nil⟩
  | optimize => exact ⟨kept.committed, kept.pending⟩
  | delete query =>
    unfold Memory.perform
    dsimp only
    have asks := Deletion.asks_ofQuery? query
    generalize Change.ofQuery? query = asked at asks
    cases asks with
    | nothing => exact kept
    | all | field =>
      refine ⟨kept.committed, fun {document} waits => ?_⟩
      rcases List.mem_append.1 waits with before | added
      · exact kept.pending before
      · cases List.mem_singleton.1 added

end Memory

namespace Backed

variable {γ : Type} [Engine γ] [Backed γ] {first : Table Document} {additions : List Document}

theorem confined_performAll (operations : List Operation) {engine : γ}
    (confined : Memory.Confined first additions (memory engine)) :
    Memory.Confined first (additions ++ Operation.additions operations)
      (memory (Engine.performAll operations engine).2) := by
  induction operations generalizing engine additions with
  | nil => exact confined.mono (List.subset_append_left _ _)
  | cons operation rest ih =>
    have next : Memory.Confined first (additions ++ Operation.additions [operation])
        (memory (Engine.perform operation engine).2) := by
      rcases Backed.perform operation engine with ⟨-, served⟩ | ⟨-, kept⟩
      · rw [served]
        exact confined.perform operation
      · rw [kept]
        exact confined.mono (List.subset_append_left _ _)
    have all : Operation.additions (operation :: rest) =
        Operation.additions [operation] ++ Operation.additions rest := by
      unfold Operation.additions
      rw [← List.flatMap_append, List.singleton_append]
    rw [all, ← List.append_assoc]
    exact ih next

theorem ids_of_written {engine last : γ} {documents : List Document} (nonempty : documents ≠ [])
    (serves : Serves engine (writing documents) last) : ∀ document ∈ documents, ∃ id, document.id? = some id := by
  cases documents with
  | nil => exact absurd rfl nonempty
  | cons document others =>
    obtain ⟨_, -, accepted, -⟩ := memory_of_granted serves
    intro other member
    exact Option.isSome_iff_exists.1 (List.takeWhile_eq_self_iff.1 (takeWhile_of_accepted accepted) other member)

end Backed

namespace SteadilyBacked

variable {γ : Type} [Engine γ] [SteadilyBacked γ] {engine after : γ} {documents : List Document}
  {outcome : Except SearchError Nat}

/-- A batch that is written into a generation with a memory behind it is published whole, behind what waited before, or
nothing of it is published, then or by anything that is asked for later. An empty batch changes nothing at all. -/
theorem batch_whole_or_not
    (written : (Maintenance.writeBatch documents).exec Engine.perform engine = (outcome, after)) :
    (documents = [] → outcome = .ok 0 ∧ after = engine) ∧
      (∀ count, outcome = .ok count → count = documents.length ∧
        (documents ≠ [] → (∀ document ∈ documents, ∃ id, document.id? = some id) ∧
          Backed.Holds after (Memory.store (Backed.memory engine).settled documents))) ∧
      ∀ error, outcome = .error error → Backed.Holds after (Backed.visible engine) ∧
        ∀ operations id document, Engine.find (Engine.performAll operations after).2 id = .ok (some document) →
          Engine.find engine id = .ok (some document) ∨ ∃ batch, .add batch ∈ operations ∧ document ∈ batch := by
  have serves := (Maintenance.writeBatch documents).serves_exec engine
  have path := Dialogue.path_transcript Engine.perform (Maintenance.writeBatch documents) engine
  rw [written] at serves path
  dsimp only at serves path
  rcases Maintenance.path_writeBatch path with ⟨whole, rfl⟩ | ⟨fault, nonempty, broken, rfl⟩
  · rw [whole] at serves
    refine ⟨?_, ?_, nofun⟩
    · rintro rfl
      exact ⟨rfl, serves_nil.1 serves⟩
    · rintro _ ⟨⟩
      refine ⟨rfl, fun nonempty => ⟨Backed.ids_of_written nonempty serves, ?_⟩⟩
      rw [← List.append_nil (writing documents)] at serves
      obtain ⟨middle, holds, done⟩ := Backed.holds_of_written nonempty serves
      rwa [serves_nil.1 done]
  · have holds := holds_of_brokenWrite broken serves
    refine ⟨fun empty => absurd empty nonempty, nofun, fun _ _ => ⟨holds, fun operations id document found => ?_⟩⟩
    -- Nothing waits behind the failure, so what is found later was there before or is added later.
    have confined : Memory.Confined (Backed.visible engine) [] (Backed.memory after) := by
      refine ⟨fun found => .inl ?_, fun {document} waits => ?_⟩
      · exact holds.visible ▸ found
      · have nothing : (Backed.memory after).pending = [] := holds.waiting
        rw [nothing] at waits
        cases waits
    rw [Backed.find, Except.ok.injEq] at found ⊢
    refine ((Backed.confined_performAll operations confined).committed found).imp_right fun member => ?_
    rw [List.nil_append] at member
    exact Operation.exists_of_additions member

end SteadilyBacked

namespace Trial

def basket : Faulty FaultPlan Memory :=
  ⟨.none, (Engine.performAll [.add [fruit "a" "red"], .commit, .add [fruit "b" "blue"]] Memory.empty).2⟩

def unlabelled : List Document := [fruit "a" "green", fruit "c" "red", .empty]

end Trial

namespace SteadilyBacked

theorem batch_whole_or_not_trial :
    ∃ after, (Maintenance.writeBatch Trial.unlabelled).exec Engine.perform Trial.basket =
        (.error Memory.missingId, after) ∧
      Backed.Holds after (Backed.visible Trial.basket) ∧
      ∀ operations, (∀ batch, .add batch ∉ operations) → ∀ document,
        Engine.find (Engine.performAll operations after).2 "c" ≠ .ok (some document) := by
  have written : (Maintenance.writeBatch Trial.unlabelled).exec Engine.perform Trial.basket =
      (.error Memory.missingId, ((Maintenance.writeBatch Trial.unlabelled).exec Engine.perform Trial.basket).2) := rfl
  obtain ⟨-, -, fails⟩ := batch_whole_or_not written
  obtain ⟨holds, later⟩ := fails _ rfl
  refine ⟨_, written, holds, fun operations nothing document found => ?_⟩
  rcases later operations "c" document found with there | ⟨batch, asked, -⟩
  · have absent : Engine.find Trial.basket "c" = .ok none := rfl
    rw [absent] at there
    cases there
  · exact nothing batch asked

end SteadilyBacked
end CatalogIndex
