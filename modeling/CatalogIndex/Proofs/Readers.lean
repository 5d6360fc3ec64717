import CatalogIndex.Proofs.Backing
import CatalogIndex.Proofs.Faultless
/-!
What readers see while a rebuild runs over two generations: the index of before, untouched, up to the one moment
at which the generations are exchanged, and the complete new one from then on.
-/
namespace CatalogIndex

namespace History

variable {before after : History} {exchange : Exchange}

theorem take_of_swapped {i : Nat} (unswapped : before.swapped = false)
    (swapped : swapped ((before ++ exchange :: after).take i) = true) :
    ∃ j, (before ++ exchange :: after).take i = before ++ exchange :: after.take j := by
  have beyond : before.length < i := by
    refine Nat.lt_of_not_le fun within => ?_
    rw [List.take_append_of_le_length within] at swapped
    obtain ⟨other, member, isSwapped⟩ := List.any_eq_true.1 swapped
    have none := List.any_eq_false.1 unswapped other (List.mem_of_mem_take member)
    exact none isSwapped
  obtain ⟨j, rfl⟩ := Nat.exists_eq_add_of_lt beyond
  refine ⟨j, ?_⟩
  rw [List.take_append, List.take_of_length_le (by omega)]
  have rest : before.length + j + 1 - before.length = j + 1 := by omega
  rw [rest, List.take_succ_cons]

theorem swapped_of_take {history : History} {i : Nat} (swapped : History.swapped (history.take i) = true) :
    history.swapped = true := by
  obtain ⟨exchange, member, isSwapped⟩ := List.any_eq_true.1 swapped
  exact List.any_eq_true.2 ⟨exchange, List.mem_of_mem_take member, isSwapped⟩

end History

structure Exchanges (plan : Plan) (before after : History) : Prop where
  planned : ∃ total, before.total? = some total ∧ (before.built plan).length = Run.pagesPlanned plan total
  /-- The standby has been cleared, every page has been written to it, and it has been compacted. -/
  requests : before.requests = clearing ++ ((before.built plan).flatMap BuiltPage.writing ++ [granted .optimize])
  /-- The last check for a cancellation has been passed. -/
  sure : Run.approved <:+ before
  unchecked : ∀ exchange ∈ after, exchange.1 ≠ .isCancelled
  first : before.swaps = []
  last : after.swaps = []
  notes : ∀ journal : Journal, journal.notes after = journal

theorem Account.exchanges {plan : Plan} {history : History} {outcome : Except Stop Report}
    (account : Account plan history outcome) (swapped : history.swapped = true) :
    ∃ before after, history = before ++ ⟨.swap, .ok true⟩ :: after ∧ Exchanges plan before after := by
  cases account with
  | rejected => cases swapped
  | uncleared broken made unbuilt silent =>
    rw [History.swapped_of_silent silent] at swapped
    cases swapped
  | interrupted built made breaks silent within recorded =>
    rw [History.swapped_of_silent silent] at swapped
    cases swapped
  | unexchanged filled refused =>
    rw [History.swapped_of_refused refused] at swapped
    cases swapped
  | @exchanged before after pages isShared reply outcome filled silent sure mode closing once unchecked cleans =>
    have exchanged : reply = true := by
      rw [History.swapped_append, History.swapped_cons, History.swapped_of_silent silent,
        History.swapped_of_silent once] at swapped
      cases reply with
      | true => rfl
      | false => cases swapped
    rw [exchanged]
    refine ⟨before, after, rfl, ⟨?_, ?_, sure, unchecked, silent, once, closing⟩⟩
    · rw [filled.built]
      exact filled.planned
    · rw [filled.built]
      exact filled.requests

theorem Exchanges.built {plan : Plan} {before after : History} (exchanges : Exchanges plan before after) :
    History.built plan (before ++ ⟨.swap, .ok true⟩ :: after) = before.built plan :=
  History.built_swap exchanges.notes

namespace Site

variable {γ : Type} [Engine γ] [Backed γ] {site last : Site γ} {plan : Plan} {before after rest : History}

theorem Leads.visible_of_exchanges (leads : site.Leads (before ++ ⟨.swap, .ok true⟩ :: rest) last)
    (exchanges : Exchanges plan before after) (once : rest.swaps = []) :
    last.generations.active.name = site.generations.reindex.name ∧
      Backed.visible last.generations.active.engine = stored (before.built plan) := by
  obtain ⟨middle, first, ok, second⟩ := leads.exchanged exchanges.first once
  obtain ⟨exchanged, active, -, -, mode⟩ := Pair.swap_of_ok ok
  have dual : middle.swap.2.isShared = false := by
    rw [mode]
    simpa using exchanged.symm
  have serves := first.serves
  rw [exchanges.requests] at serves
  obtain ⟨other, holds, serves⟩ := Backed.holds_of_filling serves
  rw [second.active dual, active]
  exact ⟨first.name, (Backed.holds_of_optimize holds serves).visible⟩

end Site

namespace World

variable {γ σ : Type} [Engine γ] [Backed γ]

/-- At every point of a rebuild over two generations the active one is the one of before, exactly as it was, or,
once the generations have been exchanged, the former standby with every page of the rebuild. They are exchanged
at most once, after everything else has succeeded. -/
theorem readers_see_whole_index {plan : Plan} {surroundings : Surroundings σ} {asOf : Instant}
    {world : World γ σ} (dual : world.site.generations.isShared = false) :
    (world.course plan surroundings asOf).length = (world.history plan surroundings asOf).length + 1 ∧
    (∀ (i : Nat) (later : World γ σ), (world.course plan surroundings asOf)[i]? = some later →
      if History.swapped ((world.history plan surroundings asOf).take i) then
        later.site.generations.active.name = world.site.generations.reindex.name ∧
          Backed.visible later.site.generations.active.engine =
            stored ((world.history plan surroundings asOf).built plan)
      else later.site.generations.active = world.site.generations.active) ∧
    ((world.history plan surroundings asOf).swapped = true →
      ∃ before after, world.history plan surroundings asOf = before ++ ⟨.swap, .ok true⟩ :: after ∧
        Exchanges plan before after) ∧
    ((world.history plan surroundings asOf).swapped = false →
      (world.rebuild plan surroundings asOf).2.site.generations.active = world.site.generations.active) := by
  have account := (World.rebuilds plan surroundings asOf world).account
  refine ⟨Dialogue.length_states _ _, fun i later found => ?_, fun swapped => account.exchanges swapped,
    fun still => ?_⟩
  · have leads := leads_take found
    cases swapped : History.swapped ((world.history plan surroundings asOf).take i) with
    | false => exact (leads.served swapped).active dual
    | true =>
      have whole : (world.history plan surroundings asOf).swapped = true := History.swapped_of_take swapped
      obtain ⟨before, after, same, exchanges⟩ := account.exchanges whole
      rw [same] at leads swapped ⊢
      obtain ⟨j, part⟩ := History.take_of_swapped (History.swapped_of_silent exchanges.first) swapped
      rw [part] at leads
      rw [exchanges.built]
      exact leads.visible_of_exchanges exchanges (History.swaps_take j exchanges.last)
  · exact (leads.served still).active dual

theorem readers_see_whole_index_trial :
    (∃ before after, (Trial.world (Trial.refusing 3)).history Trial.plan (Trial.parties 0).surroundings .epoch =
      before ++ ⟨.swap, .ok true⟩ :: after ∧ Exchanges Trial.plan before after) ∧
    ((Trial.world (Trial.refusing 2)).rebuild Trial.plan (Trial.parties 0).surroundings
      .epoch).2.site.generations.active = (Trial.refusing 2).active := by
  constructor
  · exact (readers_see_whole_index rfl).2.2.1 rfl
  · exact (readers_see_whole_index rfl).2.2.2 rfl

end World
end CatalogIndex
