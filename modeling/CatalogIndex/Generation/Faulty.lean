import CatalogIndex.Generation.Engine
/-!
Generations that fail on demand. A rule decides which requests fail; a request that fails by the rule does not
reach the generation behind it.
-/
namespace CatalogIndex

/-- What decides which requests to a generation fail, and counts them as they come. -/
class FaultRule (ρ : Type) where
  meet : Operation → ρ → Option SearchError × ρ

structure Faulty (ρ γ : Type) where
  rule : ρ
  inner : γ

namespace Faulty

variable {ρ γ : Type}

def perform [FaultRule ρ] [Engine γ] (operation : Operation) (generation : Faulty ρ γ) :
    Except SearchError Unit × Faulty ρ γ :=
  let (fault, rule) := FaultRule.meet operation generation.rule
  match fault with
  | some error => (.error error, ⟨rule, generation.inner⟩)
  | none =>
    let (reply, inner) := Engine.perform operation generation.inner
    (reply, ⟨rule, inner⟩)

instance [FaultRule ρ] [Engine γ] : Engine (Faulty ρ γ) where
  perform := perform
  count generation := Engine.count generation.inner
  find generation := Engine.find generation.inner

end Faulty

/-- A rule for additions, removals and compactions. Calls are counted from one. -/
structure FaultPlan where
  failAdd : Option Nat
  failDelete : Bool
  failOptimize : Bool
  adds : Nat
deriving DecidableEq, Repr

namespace FaultPlan

def none : FaultPlan := ⟨.none, false, false, 0⟩

def meet (operation : Operation) (plan : FaultPlan) : Option SearchError × FaultPlan :=
  match operation with
  | .add _ =>
    let call := plan.adds + 1
    (if plan.failAdd = some call then
      some (.communication ("connection reset on add #" ++ Numeral.ofNat call)) else .none,
      { plan with adds := call })
  | .optimize => (if plan.failOptimize then some (.communication "optimize timed out") else .none, plan)
  | .delete _ => (if plan.failDelete then some (.rejected "delete refused") else .none, plan)
  | .commit | .rollback => (.none, plan)

instance : FaultRule FaultPlan := ⟨meet⟩

end FaultPlan

/-- A rule for commits and rollbacks. Calls are counted from one. -/
structure LossPlan where
  failCommits : List Nat
  failRollback : Bool
  commits : Nat
deriving DecidableEq, Repr

namespace LossPlan

def meet (operation : Operation) (plan : LossPlan) : Option SearchError × LossPlan :=
  match operation with
  | .commit =>
    let call := plan.commits + 1
    (if plan.failCommits.contains call then
      some (.communication ("commit #" ++ Numeral.ofNat call ++ " lost")) else .none,
      { plan with commits := call })
  | .rollback => (if plan.failRollback then some (.rejected "rollback refused") else .none, plan)
  | .add _ | .optimize | .delete _ => (.none, plan)

instance : FaultRule LossPlan := ⟨meet⟩

end LossPlan
end CatalogIndex
