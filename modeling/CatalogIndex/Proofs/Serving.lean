import CatalogIndex.Proofs.Following
import CatalogIndex.Proofs.Tally
/-!
What becomes of the generations of a site. Between two swaps every request goes to the generation that rebuilds
write, and where there are two the active one stays exactly as it is.
-/
namespace CatalogIndex

inductive Serves {γ : Type} [Engine γ] : γ → List Request → γ → Prop where
  | nil (engine : γ) : Serves engine [] engine
  | cons {engine last : γ} {operation : Operation} {rest : List Request}
      (serves : Serves (Engine.perform operation engine).2 rest last) :
      Serves engine (⟨operation, (Engine.perform operation engine).1⟩ :: rest) last

section

variable {γ : Type} [Engine γ] {engine last : γ} {before after : List Request}

theorem serves_nil : Serves engine [] last ↔ last = engine := by
  constructor
  · intro serves
    cases serves
    rfl
  · rintro rfl
    exact .nil _

theorem serves_cons {operation : Operation} {reply : operation.Reply} {rest : List Request} :
    Serves engine (⟨operation, reply⟩ :: rest) last ↔
      reply = (Engine.perform operation engine).1 ∧ Serves (Engine.perform operation engine).2 rest last := by
  constructor
  · intro serves
    cases serves with
    | cons serves => exact ⟨rfl, serves⟩
  · rintro ⟨rfl, serves⟩
    exact .cons serves

theorem serves_append : Serves engine (before ++ after) last ↔
    ∃ middle, Serves engine before middle ∧ Serves middle after last := by
  induction before generalizing engine with
  | nil =>
    constructor
    · intro serves
      exact ⟨engine, .nil engine, serves⟩
    · rintro ⟨middle, first, second⟩
      cases first
      exact second
  | cons request before ih =>
    constructor
    · intro serves
      cases serves with
      | cons serves =>
        obtain ⟨middle, first, second⟩ := ih.1 serves
        exact ⟨middle, .cons first, second⟩
    · rintro ⟨middle, first, second⟩
      cases first with
      | cons first => exact .cons (ih.2 ⟨middle, first, second⟩)

end

namespace Pair

variable {γ : Type} {pair middle last : Pair γ} {before after : List Request}

def logged (name : String) (requests : List Request) : List LoggedCall :=
  requests.map fun request => ⟨name, request.1⟩

theorem reindex_of_shared (shared : pair.isShared = true) : pair.reindex = pair.active := by
  obtain ⟨active, standby, marker, recordsActive, log⟩ := pair
  cases standby with
  | none => rfl
  | some standby => cases shared

theorem swap_of_not {pair : Pair γ} (not : pair.swap.1 ≠ .ok true) : pair.swap.2 = pair := by
  unfold swap at not ⊢
  split
  · rfl
  · split
    · split
      · rfl
      · rename_i recorded marker written
        simp_all
    · rename_i unrecorded
      simp_all

/-- A swap that succeeds puts the rebuilt generation into service and leaves the other one to be rebuilt. With one
generation the two are the same. -/
theorem swap_of_ok {pair : Pair γ} {swapped : Bool} (ok : pair.swap.1 = .ok swapped) :
    swapped = !pair.isShared ∧ pair.swap.2.active = pair.reindex ∧ pair.swap.2.reindex = pair.active ∧
      pair.swap.2.log = pair.log ∧ pair.swap.2.isShared = pair.isShared := by
  obtain ⟨active, standby, marker, recordsActive, log⟩ := pair
  cases standby with
  | none =>
    cases ok
    exact ⟨rfl, rfl, rfl, rfl, rfl⟩
  | some standby =>
    cases recordsActive with
    | false =>
      cases ok
      exact ⟨rfl, rfl, rfl, rfl, rfl⟩
    | true =>
      cases marker with
      | blocked => cases ok
      | sealed text => cases ok
      | absent =>
        cases ok
        exact ⟨rfl, rfl, rfl, rfl, rfl⟩
      | written text =>
        cases ok
        exact ⟨rfl, rfl, rfl, rfl, rfl⟩

theorem recordsActive_swap (pair : Pair γ) : pair.swap.2.recordsActive = pair.recordsActive := by
  unfold swap
  split
  · rfl
  · split
    · split <;> rfl
    · rfl

theorem swap_of_unrecorded {pair : Pair γ} (unrecorded : pair.recordsActive = false) :
    ∃ swapped, pair.swap.1 = .ok swapped := by
  unfold swap
  split
  · exact ⟨false, rfl⟩
  · rw [unrecorded]
    exact ⟨true, rfl⟩

theorem isShared_swap (pair : Pair γ) : pair.swap.2.isShared = pair.isShared := by
  by_cases swapped : pair.swap.1 = .ok true
  · exact (swap_of_ok swapped).2.2.2.2
  · rw [swap_of_not swapped]

variable [Engine γ]

structure Served (pair : Pair γ) (requests : List Request) (last : Pair γ) : Prop where
  serves : Serves pair.reindex.engine requests last.reindex.engine
  name : last.reindex.name = pair.reindex.name
  log : last.log = pair.log ++ logged pair.reindex.name requests
  isShared : last.isShared = pair.isShared
  recordsActive : last.recordsActive = pair.recordsActive
  active : pair.isShared = false → last.active = pair.active

theorem served_nil (pair : Pair γ) : pair.Served [] pair :=
  ⟨.nil _, rfl, by simp [logged], rfl, rfl, fun _ => rfl⟩

theorem served_perform (operation : Operation) (pair : Pair γ) :
    pair.Served [⟨operation, (pair.performReindex operation).1⟩] (pair.performReindex operation).2 := by
  obtain ⟨active, standby, marker, recordsActive, log⟩ := pair
  cases standby with
  | none => exact ⟨.cons (.nil _), rfl, rfl, rfl, rfl, fun dual => nomatch dual⟩
  | some standby => exact ⟨.cons (.nil _), rfl, rfl, rfl, rfl, fun dual => rfl⟩

theorem fst_performReindex (operation : Operation) (pair : Pair γ) :
    (pair.performReindex operation).1 = (Engine.perform operation pair.reindex.engine).1 := by
  obtain ⟨active, standby, marker, recordsActive, log⟩ := pair
  cases standby <;> rfl

theorem Served.append (first : pair.Served before middle) (second : middle.Served after last) :
    pair.Served (before ++ after) last := by
  refine ⟨serves_append.2 ⟨_, first.serves, second.serves⟩, second.name.trans first.name, ?_,
    second.isShared.trans first.isShared, second.recordsActive.trans first.recordsActive, fun dual => ?_⟩
  · rw [second.log, first.log, first.name]
    simp [logged]
  · rw [second.active (first.isShared.trans dual), first.active dual]

theorem Served.name_active (served : pair.Served before last) : last.active.name = pair.active.name := by
  cases mode : pair.isShared with
  | false => rw [served.active mode]
  | true => rw [← reindex_of_shared mode, ← served.name, reindex_of_shared (served.isShared.trans mode)]

end Pair

namespace Site

variable {γ : Type} [Engine γ] {site last : Site γ} {history : History}

theorem recordsActive_step (site : Site γ) (call : Call) :
    (site.step call).generations.recordsActive = site.generations.recordsActive := by
  cases call with
  | perform operation => exact (Pair.served_perform operation site.generations).recordsActive
  | swap => exact Pair.recordsActive_swap site.generations
  | _ => rfl

theorem Leads.isShared (leads : site.Leads history last) :
    last.generations.isShared = site.generations.isShared ∧
      ∀ isShared, ⟨.isShared, isShared⟩ ∈ history → isShared = site.generations.isShared := by
  induction leads with
  | nil site => exact ⟨rfl, fun isShared member => nomatch member⟩
  | @cons site last call reply rest gives leads ih =>
    have kept : (site.step call).generations.isShared = site.generations.isShared := by
      cases call with
      | perform operation => exact (Pair.served_perform operation site.generations).isShared
      | swap => exact Pair.isShared_swap site.generations
      | _ => rfl
    refine ⟨ih.1.trans kept, fun isShared member => ?_⟩
    rcases List.mem_cons.1 member with same | member
    · cases same
      exact gives
    · rw [ih.2 isShared member, kept]

theorem Leads.served (leads : site.Leads history last) (unswapped : history.swapped = false) :
    site.generations.Served history.requests last.generations := by
  induction leads with
  | nil site => exact Pair.served_nil _
  | @cons site last call reply rest gives leads ih =>
    cases call with
    | perform operation =>
      have gives : reply = (site.generations.performReindex operation).1 := gives
      rw [gives]
      exact (Pair.served_perform operation site.generations).append (ih unswapped)
    | swap =>
      obtain ⟨first, later⟩ := Bool.or_eq_false_iff.1 (History.swapped_cons _ ▸ unswapped)
      have differs : site.generations.swap.1 ≠ .ok true := by
        intro same
        have gives : reply = site.generations.swap.1 := gives
        rw [gives, same] at first
        cases first
      have served := ih later
      have same : (site.step .swap).generations = site.generations := Pair.swap_of_not differs
      rw [same] at served
      exact served
    | _ => exact ih unswapped

/-- A history with a swap comes to the requests before it, the swap, and the requests after it. -/
theorem Leads.exchanged {before after : History} {swapped : Bool}
    (leads : site.Leads (before ++ ⟨.swap, .ok swapped⟩ :: after) last) (unswapped : before.swaps = [])
    (once : after.swaps = []) :
    ∃ middle : Pair γ, site.generations.Served before.requests middle ∧ middle.swap.1 = .ok swapped ∧
      middle.swap.2.Served after.requests last.generations := by
  obtain ⟨middle, first, second⟩ := leads_append.1 leads
  cases second with
  | cons gives second =>
    have gives : .ok swapped = middle.generations.swap.1 := gives
    exact ⟨middle.generations, first.served (History.swapped_of_silent unswapped), gives.symm,
      second.served (History.swapped_of_silent once)⟩

end Site
end CatalogIndex
