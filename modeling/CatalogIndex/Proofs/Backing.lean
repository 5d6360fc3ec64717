import CatalogIndex.Generation.Faulty
import CatalogIndex.Generation.Memory
import CatalogIndex.Proofs.Serving
import CatalogIndex.Proofs.Endings
/-!
Generations with a memory behind them, which may refuse requests but cannot garble them. A clear leaves such a
memory empty whatever was in it before, and each written page adds its documents to what is committed.
-/
namespace CatalogIndex

/-- A generation with a memory behind it. A request either reaches the memory or is refused. -/
class Backed (γ : Type) [Engine γ] where
  memory : γ → Memory
  perform (operation : Operation) (engine : γ) :
    ((Engine.perform operation engine).1 = (Memory.perform operation (memory engine)).1 ∧
      memory (Engine.perform operation engine).2 = (Memory.perform operation (memory engine)).2) ∨
    ((∃ error, (Engine.perform operation engine).1 = .error error) ∧
      memory (Engine.perform operation engine).2 = memory engine)
  find (engine : γ) (id : String) : Engine.find engine id = .ok ((memory engine).committed.find? id)
  count (engine : γ) : Engine.count engine = (memory engine).committed.size

class SteadilyBacked (γ : Type) [Engine γ] extends Backed γ where
  commit (engine : γ) : (Engine.perform .commit engine).1 = .ok () ∧
    memory (Engine.perform .commit engine).2 = (Memory.perform .commit (memory engine)).2
  rollback (engine : γ) :
    memory (Engine.perform .rollback engine).2 = (Memory.perform .rollback (memory engine)).2

instance : SteadilyBacked Memory where
  memory := id
  perform _ _ := .inl ⟨rfl, rfl⟩
  find _ _ := rfl
  count _ := rfl
  commit _ := ⟨rfl, rfl⟩
  rollback _ := rfl

namespace Faulty

variable {ρ γ : Type} [FaultRule ρ] [Engine γ]

theorem perform_of_fault {operation : Operation} {generation : Faulty ρ γ} {error : SearchError}
    (meets : (FaultRule.meet operation generation.rule).1 = some error) :
    Engine.perform operation generation =
      (.error error, ⟨(FaultRule.meet operation generation.rule).2, generation.inner⟩) := by
  change Faulty.perform operation generation = _
  unfold Faulty.perform
  simp only [meets]

theorem perform_of_none {operation : Operation} {generation : Faulty ρ γ}
    (meets : (FaultRule.meet operation generation.rule).1 = none) :
    Engine.perform operation generation = ((Engine.perform operation generation.inner).1,
      ⟨(FaultRule.meet operation generation.rule).2, (Engine.perform operation generation.inner).2⟩) := by
  change Faulty.perform operation generation = _
  unfold Faulty.perform
  simp only [meets]

instance [Backed γ] : Backed (Faulty ρ γ) where
  memory generation := Backed.memory generation.inner
  perform operation generation := by
    cases meets : (FaultRule.meet operation generation.rule).1 with
    | some error =>
      rw [perform_of_fault meets]
      exact .inr ⟨⟨error, rfl⟩, rfl⟩
    | none =>
      rw [perform_of_none meets]
      exact Backed.perform operation generation.inner
  find generation id := Backed.find generation.inner id
  count generation := Backed.count generation.inner

instance [SteadilyBacked γ] : SteadilyBacked (Faulty FaultPlan γ) where
  commit generation := SteadilyBacked.commit generation.inner
  rollback generation := SteadilyBacked.rollback generation.inner

end Faulty

/-- Of two kinds of engine each generation may be one or the other. -/
instance {γ δ : Type} [Engine γ] [Engine δ] : Engine (γ ⊕ δ) where
  perform operation
    | .inl engine => let (reply, engine) := Engine.perform operation engine; (reply, .inl engine)
    | .inr engine => let (reply, engine) := Engine.perform operation engine; (reply, .inr engine)
  count
    | .inl engine => Engine.count engine
    | .inr engine => Engine.count engine
  find
    | .inl engine => Engine.find engine
    | .inr engine => Engine.find engine

instance {γ δ : Type} [Engine γ] [Engine δ] [Backed γ] [Backed δ] : Backed (γ ⊕ δ) where
  memory
    | .inl engine => Backed.memory engine
    | .inr engine => Backed.memory engine
  perform operation engine := by
    cases engine with
    | inl engine => exact Backed.perform operation engine
    | inr engine => exact Backed.perform operation engine
  find engine id := by
    cases engine with
    | inl engine => exact Backed.find engine id
    | inr engine => exact Backed.find engine id
  count engine := by
    cases engine with
    | inl engine => exact Backed.count engine
    | inr engine => exact Backed.count engine

instance {γ δ : Type} [Engine γ] [Engine δ] [SteadilyBacked γ] [SteadilyBacked δ] : SteadilyBacked (γ ⊕ δ) where
  commit engine := by
    cases engine with
    | inl engine => exact SteadilyBacked.commit engine
    | inr engine => exact SteadilyBacked.commit engine
  rollback engine := by
    cases engine with
    | inl engine => exact SteadilyBacked.rollback engine
    | inr engine => exact SteadilyBacked.rollback engine

/-- Enters a document under its id, in the place of an earlier one. A document without an id is passed over. -/
def Memory.enter (committed : Table Document) (document : Document) : Table Document :=
  match document.id? with
  | some id => committed.insert id document
  | none => committed

def Memory.store (committed : Table Document) (documents : List Document) : Table Document :=
  documents.foldl Memory.enter committed

/-- Additions that wait come to entering their documents. -/
theorem Memory.foldl_apply_add (committed : Table Document) (documents : List Document) :
    (documents.map Change.add).foldl Change.apply committed = store committed documents := by
  have enters (before : Table Document) (document : Document) :
      (Change.add document).apply before = enter before document := rfl
  unfold store
  rw [List.foldl_map]
  simp only [enters]

def stored (pages : List BuiltPage) : Table Document :=
  Memory.store .empty (pages.flatMap BuiltPage.documents)

namespace Backed

variable {γ : Type} [Engine γ] [Backed γ] {engine last : γ} {documents : List Document}
  {before : Table Document} {rest : List Request}

def visible (engine : γ) : Table Document := (memory engine).committed

def waiting (engine : γ) : List Change := (memory engine).pending

structure Holds (engine : γ) (documents : Table Document) : Prop where
  visible : visible engine = documents
  waiting : waiting engine = []

theorem memory_of_granted {operation : Operation} (serves : Serves engine (granted operation :: rest) last) :
    ∃ middle : γ, memory middle = (Memory.perform operation (memory engine)).2 ∧
      (Memory.perform operation (memory engine)).1 = .ok () ∧ Serves middle rest last := by
  obtain ⟨reply, serves⟩ := serves_cons.1 serves
  rcases Backed.perform operation engine with ⟨replies, served⟩ | ⟨⟨error, failed⟩, kept⟩
  · exact ⟨_, served, replies.symm.trans reply.symm, serves⟩
  · rw [failed] at reply
    cases reply

theorem ofQuery?_allDocuments : Change.ofQuery? allDocuments = some .clear := by decide

theorem holds_of_clearing (serves : Serves engine (clearing ++ rest) last) :
    ∃ middle : γ, Holds middle .empty ∧ Serves middle rest last := by
  obtain ⟨middle, deleted, -, serves⟩ := memory_of_granted serves
  obtain ⟨middle, served, -, serves⟩ := memory_of_granted serves
  refine ⟨middle, ⟨?_, ?_⟩, serves⟩
  · unfold visible
    rw [served, deleted]
    simp [Memory.perform, ofQuery?_allDocuments, Memory.settled, Change.apply]
  · unfold waiting
    rw [served]
    rfl

theorem takeWhile_of_accepted {memory : Memory} (accepted : (Memory.perform (.add documents) memory).1 = .ok ()) :
    documents.takeWhile (fun document => document.id?.isSome) = documents := by
  refine (List.takeWhile_prefix _).eq_of_length_le (Nat.not_lt.1 fun short => ?_)
  simp [Memory.perform, Memory.acceptable, short] at accepted

theorem pending_of_add {memory : Memory} (accepted : (Memory.perform (.add documents) memory).1 = .ok ()) :
    (Memory.perform (.add documents) memory).2.pending = memory.pending ++ documents.map Change.add := by
  simp [Memory.perform, Memory.acceptable, takeWhile_of_accepted accepted]

theorem Holds.settled (holds : Holds engine before) : (memory engine).settled = before := by
  have pending : (memory engine).pending = [] := holds.waiting
  unfold Memory.settled
  rw [pending]
  exact holds.visible

/-- A batch that has been written is added to what was there, after the changes that waited before it. -/
theorem holds_of_written (nonempty : documents ≠ []) (serves : Serves engine (writing documents ++ rest) last) :
    ∃ middle : γ, Holds middle (Memory.store (memory engine).settled documents) ∧ Serves middle rest last := by
  cases documents with
  | nil => exact absurd rfl nonempty
  | cons document others =>
    obtain ⟨middle, added, accepted, serves⟩ := memory_of_granted serves
    obtain ⟨middle, served, -, serves⟩ := memory_of_granted serves
    refine ⟨middle, ⟨?_, ?_⟩, serves⟩
    · have waits := pending_of_add accepted
      unfold visible
      rw [served]
      simp only [Memory.perform, Memory.settled]
      rw [added, waits, List.foldl_append, Memory.foldl_apply_add]
      rfl
    · unfold waiting
      rw [served]
      rfl

theorem holds_of_writing (holds : Holds engine before) (serves : Serves engine (writing documents ++ rest) last) :
    ∃ middle : γ, Holds middle (Memory.store before documents) ∧ Serves middle rest last := by
  cases documents with
  | nil => exact ⟨engine, holds, serves⟩
  | cons document others =>
    rw [← holds.settled]
    exact holds_of_written (List.cons_ne_nil _ _) serves

theorem store_append (before : Table Document) (first second : List Document) :
    Memory.store before (first ++ second) = Memory.store (Memory.store before first) second :=
  List.foldl_append

theorem holds_of_batches {batches : List (List Document)} (holds : Holds engine before)
    (serves : Serves engine (batches.flatMap writing ++ rest) last) :
    ∃ middle : γ, Holds middle (Memory.store before batches.flatten) ∧ Serves middle rest last := by
  induction batches generalizing engine before with
  | nil => exact ⟨engine, holds, serves⟩
  | cons batch batches ih =>
    rw [List.flatMap_cons, List.append_assoc] at serves
    obtain ⟨middle, written, serves⟩ := holds_of_writing holds serves
    rw [List.flatten_cons, store_append]
    exact ih written serves

theorem holds_of_filling {pages : List BuiltPage}
    (serves : Serves engine (clearing ++ (pages.flatMap BuiltPage.writing ++ rest)) last) :
    ∃ middle : γ, Holds middle (stored pages) ∧ Serves middle rest last := by
  obtain ⟨middle, cleared, serves⟩ := holds_of_clearing serves
  have batches : pages.flatMap BuiltPage.writing = (pages.map BuiltPage.documents).flatMap writing := by
    rw [List.flatMap_map]
    rfl
  rw [batches] at serves
  unfold stored
  rw [List.flatMap_def]
  exact holds_of_batches cleared serves

theorem holds_of_optimize {reply : Except SearchError Unit} (holds : Holds engine before)
    (serves : Serves engine [⟨.optimize, reply⟩] last) : Holds last before := by
  obtain ⟨-, serves⟩ := serves_cons.1 serves
  obtain rfl := serves_nil.1 serves
  have kept : (memory (Engine.perform .optimize engine).2).committed = (memory engine).committed ∧
      (memory (Engine.perform .optimize engine).2).pending = (memory engine).pending := by
    rcases Backed.perform .optimize engine with ⟨-, served⟩ | ⟨-, kept⟩
    · rw [served]
      exact ⟨rfl, rfl⟩
    · rw [kept]
      exact ⟨rfl, rfl⟩
  exact ⟨kept.1.trans holds.visible, kept.2.trans holds.waiting⟩

end Backed

namespace SteadilyBacked

variable {γ : Type} [Engine γ] [SteadilyBacked γ] {engine last : γ} {error : SearchError}
  {requests rest : List Request}

theorem not_refused (serves : Serves engine (refused .commit error :: rest) last) : False := by
  obtain ⟨reply, -⟩ := serves_cons.1 serves
  rw [(commit engine).1] at reply
  cases reply

theorem holds_of_brokenWrite {documents : List Document} (broken : BrokenWrite documents error requests)
    (serves : Serves engine requests last) : Backed.Holds last (Backed.visible engine) := by
  cases broken with
  | add reply =>
    obtain ⟨-, serves⟩ := serves_cons.1 serves
    obtain ⟨-, serves⟩ := serves_cons.1 serves
    obtain rfl := serves_nil.1 serves
    have kept : (Backed.memory (Engine.perform (.add documents) engine).2).committed =
        (Backed.memory engine).committed := by
      rcases Backed.perform (.add documents) engine with ⟨-, served⟩ | ⟨-, kept⟩
      · rw [served]
        rfl
      · rw [kept]
    refine ⟨?_, ?_⟩
    · unfold Backed.visible
      rw [rollback]
      exact kept
    · unfold Backed.waiting
      rw [rollback]
      rfl
  | commit reply =>
    obtain ⟨-, serves⟩ := serves_cons.1 serves
    exact (not_refused serves).elim

theorem memory_of_brokenClear (broken : BrokenClear error requests) (serves : Serves engine requests last) :
    Backed.memory last = Backed.memory engine := by
  cases broken with
  | delete =>
    obtain ⟨reply, serves⟩ := serves_cons.1 serves
    obtain rfl := serves_nil.1 serves
    rcases Backed.perform (.delete allDocuments) engine with ⟨replies, -⟩ | ⟨-, kept⟩
    · have granted : (Memory.perform (.delete allDocuments) (Backed.memory engine)).1 = .ok () := by
        simp [Memory.perform, Backed.ofQuery?_allDocuments]
      rw [← reply, granted] at replies
      cases replies
    · exact kept
  | commit =>
    obtain ⟨-, serves⟩ := serves_cons.1 serves
    exact (not_refused serves).elim

end SteadilyBacked
end CatalogIndex
