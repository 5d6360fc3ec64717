import CatalogIndex.Proofs.Readers
/-!
What a rebuild that fails leaves behind: the generation as it was if it could not be cleared, whole pages and
nothing else if it could, and the complete index once the generations have been exchanged.
-/
namespace CatalogIndex

def History.Cleared (history : History) : Prop := clearing <+: history.requests

/-- The pages that a rebuild leaves: the reported ones, and one more if the commit of its transaction was refused. -/
def History.pagesLeft (history : History) : Nat := history.reports + if history.pageCommitRefused then 1 else 0

structure Leaves {γ : Type} [Engine γ] [Backed γ] (plan : Plan) (history : History) (before after : Pair γ) :
    Prop where
  /-- A generation that could not be cleared is as it was before. -/
  uncleared : ¬ history.Cleared → Backed.memory after.reindex.engine = Backed.memory before.reindex.engine
  /-- A generation that could be cleared shows whole pages from the first one on, and nothing waits in it. -/
  cleared : history.Cleared → history.swapped = false →
    history.pagesLeft ≤ (history.built plan).length ∧
      Backed.Holds after.reindex.engine (stored ((history.built plan).take history.pagesLeft))
  /-- Once the generations have been exchanged the active one shows every page that was planned. -/
  swapped : history.swapped = true →
    Backed.visible after.active.engine = stored (history.built plan) ∧
      ∃ total, history.total? = some total ∧ (history.built plan).length = Run.pagesPlanned plan total

theorem not_cleared_of_broken {history : History} {error : SearchError} {requests : List Request}
    (broken : BrokenClear error requests) (made : history.requests = requests) : ¬ history.Cleared := by
  rintro ⟨rest, same⟩
  rw [made] at same
  cases broken <;> cases same

namespace Leaves

variable {γ : Type} [Engine γ] [Backed γ] {plan : Plan} {history : History} {before after : Pair γ}

theorem of_uncleared (uncleared : ¬ history.Cleared) (still : history.swapped = false)
    (kept : Backed.memory after.reindex.engine = Backed.memory before.reindex.engine) :
    Leaves plan history before after where
  uncleared _ := kept
  cleared cleared := absurd cleared uncleared
  swapped swapped := by
    rw [still] at swapped
    cases swapped

theorem of_pages {pages rest : List BuiltPage} (cleared : history.Cleared) (still : history.swapped = false)
    (left : pages.length = history.pagesLeft) (built : history.built plan = pages ++ rest)
    (holds : Backed.Holds after.reindex.engine (stored pages)) : Leaves plan history before after where
  uncleared uncleared := absurd cleared uncleared
  cleared _ _ := by
    rw [← left, built, List.take_left, List.length_append]
    exact ⟨Nat.le_add_right _ _, holds⟩
  swapped swapped := by
    rw [still] at swapped
    cases swapped

end Leaves

namespace Site

variable {γ : Type} [Engine γ] [SteadilyBacked γ] {site last : Site γ} {plan : Plan} {history : History}
  {error : RebuildError}

theorem Leads.leaves (leads : site.Leads history last)
    (account : Account plan history (.error (.failed error))) :
    Leaves plan history site.generations last.generations := by
  generalize result : (Except.error (.failed error) : Except Stop Report) = outcome at account
  cases account with
  | rejected =>
    have served := leads.served rfl
    refine .of_uncleared (fun cleared => ?_) rfl ?_
    · cases List.prefix_nil.1 cleared
    · rw [serves_nil.1 served.serves]
  | uncleared broken made unbuilt silent =>
    have still := History.swapped_of_silent silent
    have served := leads.served still
    rw [made] at served
    exact .of_uncleared (not_cleared_of_broken broken made) still
      (SteadilyBacked.memory_of_brokenClear broken served.serves)
  | @interrupted _ stop pages rest tail built made breaks silent within recorded =>
    cases result
    have still := History.swapped_of_silent silent
    have served := leads.served still
    rw [made] at served
    obtain ⟨middle, holds, serves⟩ := Backed.holds_of_filling served.serves
    refine .of_pages ⟨_, made.symm⟩ still (recorded error rfl) built ?_
    cases breaks with
    | nothing =>
      rw [serves_nil.1 serves]
      exact holds
    | page nonempty broken =>
      have kept := SteadilyBacked.holds_of_brokenWrite broken serves
      rwa [holds.visible] at kept
  | @unexchanged _ pages reply _ filled refused =>
    -- Every page is there, and a compaction takes nothing from them, whether it has succeeded or not.
    have still := History.swapped_of_refused refused
    have served := leads.served still
    rw [filled.requests] at served
    obtain ⟨middle, holds, serves⟩ := Backed.holds_of_filling served.serves
    have left : pages.length = history.pagesLeft := by
      unfold History.pagesLeft
      rw [filled.committed, filled.recorded]
      rfl
    have built : history.built plan = pages ++ [] := by rw [filled.built, List.append_nil]
    exact .of_pages ⟨_, filled.requests.symm⟩ still left built (Backed.holds_of_optimize holds serves)
  | @exchanged before after pages isShared swapped outcome filled silent sure mode closing once unchecked cleans =>
    obtain ⟨middle, first, ok, second⟩ := leads.exchanged silent once
    -- With one generation nothing can fail behind a swap, so there are two, and they have been exchanged.
    have dual : site.generations.isShared = false :=
      (leads.isShared.2 isShared (List.mem_append_left _ mode)).symm.trans (result ▸ cleans).dual_of_failed
    have done : swapped = true := by
      rw [(Pair.swap_of_ok ok).1, first.isShared, dual]
      rfl
    subst done
    have exchanges : Exchanges plan before after :=
      ⟨filled.built ▸ filled.planned, filled.built ▸ filled.requests, sure, unchecked, silent, once, closing⟩
    have cleared : History.Cleared (before ++ ⟨.swap, .ok true⟩ :: after) := by
      unfold History.Cleared
      rw [History.requests_append, filled.requests, List.append_assoc]
      exact List.prefix_append _ _
    obtain ⟨total, told, planned⟩ := exchanges.planned
    refine ⟨fun not => absurd cleared not, fun _ still => ?_, fun _ => ?_⟩
    · simp [Exchange.swapped] at still
    · rw [exchanges.built]
      refine ⟨(leads.visible_of_exchanges exchanges once).2, total, ?_, planned⟩
      rw [History.total?_append, told]
      rfl

end Site

namespace World

variable {γ σ : Type} [Engine γ] [SteadilyBacked γ]

/-- What a rebuild leaves that ends with an error, whatever has failed and wherever. -/
theorem failed_rebuild_leaves {plan : Plan} {surroundings : Surroundings σ} {asOf : Instant}
    {world : World γ σ} {error : RebuildError}
    (failed : (world.rebuild plan surroundings asOf).1 = .error (.failed error)) :
    Leaves plan (world.history plan surroundings asOf) world.site.generations
      (world.rebuild plan surroundings asOf).2.site.generations := by
  have account := (World.rebuilds plan surroundings asOf world).account
  rw [failed] at account
  exact leads.leaves account

theorem failed_rebuild_leaves_trial :
    ((Trial.world (Trial.refusing 2)).history Trial.plan (Trial.parties 0).surroundings .epoch).pagesLeft = 1 ∧
    Leaves Trial.plan ((Trial.world (Trial.refusing 2)).history Trial.plan (Trial.parties 0).surroundings .epoch)
      (Trial.refusing 2)
      ((Trial.world (Trial.refusing 2)).rebuild Trial.plan (Trial.parties 0).surroundings
        .epoch).2.site.generations := by
  constructor
  · rfl
  · exact failed_rebuild_leaves rfl

end World
end CatalogIndex
