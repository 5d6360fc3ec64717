import CatalogIndex.Generation.Faulty
import CatalogIndex.Generation.Segmented
import CatalogIndex.Proofs.Faultless
/-!
The active generation survives a restart. Which of two generations is active is held twice, by the pair in use and by
the marker file. Whatever is done to a pair keeps the two alike, so a pair that is opened again over what is on disk is
the one that was closed, without the changes that waited.
-/
namespace CatalogIndex

/-- A generation with a directory behind it. What stands before the directory may do anything with requests, and is
set up anew whenever the directory is opened. -/
class Mounted (γ : Type) [Engine γ] where
  Front : Type
  mount : Front → Segmented → γ
  disk : γ → Segmented
  disk_mount (front : Front) (opened : Segmented) : disk (mount front opened) = opened
  find (engine : γ) (id : String) : Engine.find engine id = (disk engine).find id
  count (engine : γ) : Engine.count engine = (disk engine).documents.length

instance : Mounted Segmented where
  Front := Unit
  mount _ opened := opened
  disk := id
  disk_mount _ _ := rfl
  find _ _ := rfl
  count _ := rfl

instance {ρ γ : Type} [FaultRule ρ] [Engine γ] [Mounted γ] : Mounted (Faulty ρ γ) where
  Front := ρ × Mounted.Front γ
  mount front opened := ⟨front.1, Mounted.mount front.2 opened⟩
  disk generation := Mounted.disk generation.inner
  disk_mount front opened := Mounted.disk_mount front.2 opened
  find generation := Mounted.find generation.inner
  count generation := Mounted.count generation.inner

structure Root where
  directory : String → List (List Stored)
  marker : Marker

def Root.blank : Root := ⟨fun _ => [], .absent⟩

namespace Segmented

def Accepts (memory : UInt64) : Prop := leastMemory ≤ memory ∧ memory ≤ mostMemory

theorem openWith_of_accepts {memory : UInt64} (accepts : Accepts memory) (directory : List (List Stored)) :
    openWith memory directory = .ok ⟨directory, []⟩ := by
  unfold openWith
  rw [if_neg (UInt64.not_lt.2 accepts.1), if_neg (UInt64.not_lt.2 accepts.2)]

theorem accepts_of_openWith {memory : UInt64} {directory : List (List Stored)} {opened : Segmented}
    (opens : openWith memory directory = .ok opened) : Accepts memory := by
  unfold openWith at opens
  split at opens
  · cases opens
  · split at opens
    · cases opens
    · rename_i least most
      exact ⟨UInt64.not_lt.1 least, UInt64.not_lt.1 most⟩

end Segmented

namespace Marker

theorem eq_of_write {marker after : Marker} {name : String} (writes : marker.write name = .ok after) :
    after = .written name := by
  cases marker <;> cases writes <;> rfl

end Marker

namespace Pair

/-- The names of the active generation and the standby by what a marker holds. -/
def order (content : Option String) : String × String :=
  if namesReindex content then (reindexName, primaryName) else (primaryName, reindexName)

theorem order_cases (content : Option String) :
    order content = (primaryName, reindexName) ∨ order content = (reindexName, primaryName) := by
  unfold order
  by_cases reindex : namesReindex content = true
  · exact .inr (if_pos reindex)
  · exact .inl (if_neg reindex)

theorem order_swap {content : Option String} {active standby : String} (ordered : order content = (active, standby)) :
    active ≠ standby ∧ order (some (Blank.trimText standby)) = (standby, active) := by
  rcases order_cases content with same | same <;> cases same.symm.trans ordered <;> decide

section

variable {γ : Type} {pair : Pair γ} {standby : Named γ}

/-- A pair writes its swaps to the marker, and the marker tells which of its two generations is active. -/
structure Recorded (pair : Pair γ) (standby : Named γ) : Prop where
  dual : pair.standby = some standby
  recordsActive : pair.recordsActive = true
  marker : ∃ content, pair.marker.read = .ok content ∧ order content = (pair.active.name, standby.name)

namespace Recorded

theorem names (recorded : pair.Recorded standby) :
    pair.active.name = primaryName ∧ standby.name = reindexName ∨
      pair.active.name = reindexName ∧ standby.name = primaryName := by
  obtain ⟨content, -, ordered⟩ := recorded.marker
  rcases order_cases content with same | same
  · exact .inl (Prod.mk.inj (ordered.symm.trans same))
  · exact .inr (Prod.mk.inj (ordered.symm.trans same))

theorem isShared (recorded : pair.Recorded standby) : pair.isShared = false := by
  unfold Pair.isShared
  rw [recorded.dual]
  rfl

theorem swap_of_unwritten (recorded : pair.Recorded standby) {marker : Marker} {error : SearchError}
    (unwritten : marker.write standby.name = .error error) :
    ({ pair with marker := marker } : Pair γ).swap = (.error error, { pair with marker := marker }) := by
  unfold swap
  simp only [recorded.dual, recorded.recordsActive, unwritten, if_true]

theorem swap_of_written (recorded : pair.Recorded standby) {marker : Marker}
    (written : pair.marker.write standby.name = .ok marker) :
    pair.swap = (.ok true, { pair with active := standby, standby := some pair.active, marker := marker }) := by
  unfold swap
  simp only [recorded.dual, recorded.recordsActive, written, if_true]

/-- After a swap, whether it has succeeded or not, the marker still tells which generation is active. -/
theorem swap (recorded : pair.Recorded standby) : ∃ standby, pair.swap.2.Recorded standby := by
  cases writes : pair.marker.write standby.name with
  | error error =>
    have unchanged : pair.swap = (.error error, pair) := recorded.swap_of_unwritten writes
    rw [unchanged]
    exact ⟨standby, recorded⟩
  | ok marker =>
    obtain ⟨content, -, ordered⟩ := recorded.marker
    have held : marker.read = .ok (some (Blank.trimText standby.name)) := by
      rw [Marker.eq_of_write writes]
      rfl
    rw [recorded.swap_of_written writes]
    exact ⟨pair.active, rfl, recorded.recordsActive, _, held, (order_swap ordered).2⟩

end Recorded

end

section

variable {γ : Type} [Engine γ] {standby : Named γ}

theorem Recorded.performReindex {pair : Pair γ} (recorded : pair.Recorded standby) (operation : Operation) :
    ∃ standby, (pair.performReindex operation).2.Recorded standby := by
  obtain ⟨content, held, ordered⟩ := recorded.marker
  unfold Pair.performReindex
  rw [recorded.dual]
  exact ⟨⟨standby.name, _⟩, rfl, recorded.recordsActive, content, held, ordered⟩

end
end Pair

theorem Site.Leads.recorded {γ : Type} [Engine γ] {standby : Named γ} {site last : Site γ} {history : History}
    (leads : site.Leads history last) (recorded : site.generations.Recorded standby) :
    ∃ standby, last.generations.Recorded standby := by
  induction leads generalizing standby with
  | nil site => exact ⟨standby, recorded⟩
  | @cons site last call reply rest gives leads ih =>
    cases call with
    | perform operation =>
      obtain ⟨next, kept⟩ := recorded.performReindex operation
      exact ih kept
    | swap =>
      obtain ⟨next, kept⟩ := recorded.swap
      exact ih kept
    | _ => exact ih recorded

section

variable {γ : Type} [Engine γ] [Mounted γ] {root : Root} {memory : UInt64} {fronts : String → Mounted.Front γ}
  {pair next : Pair γ} {standby : Named γ}

/-- A generation comes back as another one: of the same name, with the same committed documents and the same answers
to readers, and without changes that wait. -/
structure Named.Restarts (generation next : Named γ) : Prop where
  name : next.name = generation.name
  segments : (Mounted.disk next.engine).segments = (Mounted.disk generation.engine).segments
  pending : (Mounted.disk next.engine).pending = []
  count : Engine.count next.engine = Engine.count generation.engine
  find (id : String) : Engine.find next.engine id = Engine.find generation.engine id

theorem Named.restarts_mount (generation : Named γ) (front : Mounted.Front γ) :
    generation.Restarts ⟨generation.name, Mounted.mount front ⟨(Mounted.disk generation.engine).segments, []⟩⟩ where
  name := rfl
  segments := by rw [Mounted.disk_mount]
  pending := by rw [Mounted.disk_mount]
  count := by
    rw [Mounted.count, Mounted.count, Mounted.disk_mount]
    rfl
  find id := by
    rw [Mounted.find, Mounted.find, Mounted.disk_mount]
    rfl

namespace Root

def generation (fronts : String → Mounted.Front γ) (root : Root) (name : String) : Named γ :=
  ⟨name, Mounted.mount (fronts name) ⟨root.directory name, []⟩⟩

def openPair (memory : UInt64) (fronts : String → Mounted.Front γ) (root : Root) : Except SearchError (Pair γ) :=
  Pair.openWith .dual
    (fun name => (Segmented.openWith memory (root.directory name)).map (Mounted.mount (fronts name))) root.marker

def opened (fronts : String → Mounted.Front γ) (root : Root) (content : Option String) : Pair γ :=
  { Pair.dual (root.generation fronts (Pair.order content).1) (root.generation fronts (Pair.order content).2) with
    marker := root.marker, recordsActive := true }

theorem openPair_ok : root.openPair memory fronts = .ok next ↔
    Segmented.Accepts memory ∧ ∃ content, root.marker.read = .ok content ∧ next = root.opened fronts content := by
  unfold openPair Pair.openWith
  cases read : root.marker.read with
  | error error =>
    constructor
    · intro opens
      cases opens
    · rintro ⟨-, content, impossible, -⟩
      cases impossible
  | ok content =>
    -- Both generations are opened with the same memory, so the first one decides whether it will do.
    by_cases accepts : Segmented.Accepts memory
    · simp only [Segmented.openWith_of_accepts accepts]
      constructor
      · intro opens
        exact ⟨accepts, content, rfl, (Except.ok.inj opens).symm⟩
      · rintro ⟨-, _, same, rfl⟩
        cases same
        rfl
    · constructor
      · intro opens
        cases first : Segmented.openWith memory (root.directory (Pair.order content).1) with
        | ok opened => exact absurd (Segmented.accepts_of_openWith first) accepts
        | error error =>
          have fails : (Except.error error : Except SearchError (Pair γ)) = .ok next := by
            rw [← opens]
            change _ = Except.bind ((Segmented.openWith memory (root.directory (Pair.order content).1)).map _) _
            rw [first]
            rfl
          cases fails
      · exact fun opens => absurd opens.1 accepts

end Root

namespace Pair

def close (pair : Pair γ) : Root where
  directory name := ((pair.named? name).map fun generation => (Mounted.disk generation.engine).segments).getD []
  marker := pair.marker

theorem Recorded.directory_close (recorded : pair.Recorded standby) :
    pair.close.directory pair.active.name = (Mounted.disk pair.active.engine).segments ∧
      pair.close.directory standby.name = (Mounted.disk standby.engine).segments := by
  obtain ⟨content, -, ordered⟩ := recorded.marker
  have other : (pair.active.name == standby.name) = false := beq_eq_false_iff_ne.2 (order_swap ordered).1
  simp [close, named?, recorded.dual, other]

/-- A pair that is opened over what another one has left comes back as that one. -/
theorem Recorded.restarts (recorded : pair.Recorded standby) (opens : pair.close.openPair memory fronts = .ok next) :
    ∃ nextStandby, next.Recorded nextStandby ∧ pair.active.Restarts next.active ∧ standby.Restarts nextStandby := by
  obtain ⟨-, content, held, rfl⟩ := Root.openPair_ok.1 opens
  obtain ⟨known, read, ordered⟩ := recorded.marker
  have same : content = known := Except.ok.inj (held.symm.trans read)
  rw [← same] at ordered
  refine ⟨pair.close.generation fronts standby.name, ⟨?_, rfl, content, held, ?_⟩, ?_, ?_⟩
  · change some _ = some _
    rw [ordered]
  · change _ = ((order content).1, standby.name)
    rw [ordered]
  · change pair.active.Restarts (pair.close.generation fronts (order content).1)
    rw [ordered]
    unfold Root.generation
    rw [recorded.directory_close.1]
    exact pair.active.restarts_mount _
  · unfold Root.generation
    rw [recorded.directory_close.2]
    exact standby.restarts_mount _

/-- The pairs that a life on one directory of an index can come to, and whether there has been a swap. It begins with
nothing on disk; it goes through rebuilds, each to its end or to any point of its course, swaps, requests to the
standby, and restarts. The marker file may become impossible to replace and possible again. -/
inductive Lived : Pair γ → Bool → Prop where
  | opened {memory : UInt64} {fronts : String → Mounted.Front γ} {pair : Pair γ}
      (opens : Root.blank.openPair memory fronts = .ok pair) : Lived pair false
  | rebuilt {σ : Type} {plan : Plan} {surroundings : Surroundings σ} {asOf : Instant} {world : World γ σ}
      {swapped : Bool} (lived : Lived world.site.generations swapped) :
      Lived (world.rebuild plan surroundings asOf).2.site.generations
        (swapped || (world.history plan surroundings asOf).swapped)
  | halfway {σ : Type} {plan : Plan} {surroundings : Surroundings σ} {asOf : Instant} {world later : World γ σ}
      {swapped : Bool} {i : Nat} (lived : Lived world.site.generations swapped)
      (found : (world.course plan surroundings asOf)[i]? = some later) :
      Lived later.site.generations (swapped || History.swapped ((world.history plan surroundings asOf).take i))
  | exchanged {pair : Pair γ} {swapped : Bool} (lived : Lived pair swapped) :
      Lived pair.swap.2 (swapped || History.swapped [⟨.swap, pair.swap.1⟩])
  | requested {pair : Pair γ} {swapped : Bool} (operation : Operation) (lived : Lived pair swapped) :
      Lived (pair.performReindex operation).2 swapped
  | obstructed {pair : Pair γ} {swapped : Bool} {marker : Marker} (lived : Lived pair swapped)
      (same : marker.read = pair.marker.read) : Lived { pair with marker := marker } swapped
  | reopened {memory : UInt64} {fronts : String → Mounted.Front γ} {pair next : Pair γ} {swapped : Bool}
      (lived : Lived pair swapped) (opens : pair.close.openPair memory fronts = .ok next) : Lived next swapped

structure Untouched (pair : Pair γ) : Prop where
  name : pair.active.name = primaryName
  segments : (Mounted.disk pair.active.engine).segments = []

theorem Untouched.of_active {last : Pair γ} (untouched : pair.Untouched) (same : last.active = pair.active) :
    last.Untouched := by
  constructor
  · rw [same, untouched.name]
  · rw [same, untouched.segments]

/-- The marker tells which generation is active, and until the first swap that is the primary one, to which nothing has
ever been written. -/
def Tracked (pair : Pair γ) (swapped : Bool) : Prop :=
  ∃ standby, pair.Recorded standby ∧ (swapped = false → pair.Untouched)

theorem Tracked.leads {site last : Site γ} {history : History} {swapped : Bool}
    (tracked : site.generations.Tracked swapped) (leads : site.Leads history last) :
    last.generations.Tracked (swapped || history.swapped) := by
  obtain ⟨standby, recorded, untouched⟩ := tracked
  obtain ⟨next, kept⟩ := leads.recorded recorded
  refine ⟨next, kept, fun unswapped => ?_⟩
  obtain ⟨before, during⟩ := Bool.or_eq_false_iff.1 unswapped
  exact (untouched before).of_active ((leads.served during).active recorded.isShared)

theorem Lived.tracked {swapped : Bool} (lived : pair.Lived swapped) : pair.Tracked swapped := by
  induction lived with
  | opened opens =>
    obtain ⟨-, content, held, rfl⟩ := Root.openPair_ok.1 opens
    cases held
    refine ⟨_, ⟨rfl, rfl, none, rfl, rfl⟩, fun _ => ⟨rfl, ?_⟩⟩
    exact congrArg Segmented.segments (Mounted.disk_mount _ _)
  | rebuilt lived ih => exact ih.leads World.leads
  | halfway lived found ih => exact ih.leads (World.leads_take found)
  | @exchanged pair swapped lived ih =>
    obtain ⟨standby, recorded, untouched⟩ := ih
    obtain ⟨next, kept⟩ := recorded.swap
    refine ⟨next, kept, fun unswapped => ?_⟩
    obtain ⟨before, now⟩ := Bool.or_eq_false_iff.1 unswapped
    -- As long as no swap has succeeded the active generation is the one of the beginning.
    have differs : pair.swap.1 ≠ .ok true := by
      intro same
      rw [same] at now
      cases now
    exact (untouched before).of_active (congrArg Pair.active (swap_of_not differs))
  | requested operation lived ih =>
    obtain ⟨standby, recorded, untouched⟩ := ih
    obtain ⟨next, kept⟩ := recorded.performReindex operation
    refine ⟨next, kept, fun unswapped => ?_⟩
    exact (untouched unswapped).of_active ((served_perform operation _).active recorded.isShared)
  | obstructed lived same ih =>
    obtain ⟨standby, ⟨dual, recordsActive, content, held, ordered⟩, untouched⟩ := ih
    exact ⟨standby, ⟨dual, recordsActive, content, same.trans held, ordered⟩,
      fun unswapped => (untouched unswapped).of_active rfl⟩
  | reopened lived opens ih =>
    obtain ⟨standby, recorded, untouched⟩ := ih
    obtain ⟨next, kept, active, -⟩ := recorded.restarts opens
    refine ⟨next, kept, fun unswapped => ⟨active.name.trans (untouched unswapped).name, ?_⟩⟩
    exact active.segments.trans (untouched unswapped).segments

/-- However a pair has lived, its generations are the primary and the reindex one, and when it is closed and opened
again each of them comes back with what it has committed, the active one as the active one. Before the first swap that
is the primary one, and it is empty. A swap that cannot write the marker fails and changes nothing. -/
theorem active_survives_reopening {swapped : Bool} (lived : pair.Lived swapped) :
    ∃ standby, pair.standby = some standby ∧
      (pair.active.name = primaryName ∧ standby.name = reindexName ∨
        pair.active.name = reindexName ∧ standby.name = primaryName) ∧
      (∀ memory (fronts : String → Mounted.Front γ),
        (Segmented.Accepts memory → ∃ next, pair.close.openPair memory fronts = .ok next) ∧
        ∀ next, pair.close.openPair memory fronts = .ok next →
          ∃ nextStandby, next.standby = some nextStandby ∧ pair.active.Restarts next.active ∧
            standby.Restarts nextStandby) ∧
      (swapped = false → pair.active.name = primaryName ∧ Engine.count pair.active.engine = 0 ∧
        ∀ id, Engine.find pair.active.engine id = .ok none) ∧
      ∀ (marker : Marker) (error : SearchError), marker.write standby.name = .error error →
        ({ pair with marker := marker } : Pair γ).swap = (.error error, { pair with marker := marker }) := by
  obtain ⟨standby, recorded, untouched⟩ := lived.tracked
  refine ⟨standby, recorded.dual, recorded.names, fun memory fronts => ⟨fun accepts => ?_, fun next opens => ?_⟩,
    fun unswapped => ?_, fun marker error unwritten => recorded.swap_of_unwritten unwritten⟩
  · obtain ⟨content, held, -⟩ := recorded.marker
    exact ⟨_, Root.openPair_ok.2 ⟨accepts, content, held, rfl⟩⟩
  · obtain ⟨nextStandby, kept, active, other⟩ := recorded.restarts opens
    exact ⟨nextStandby, kept.dual, active, other⟩
  · obtain ⟨name, segments⟩ := untouched unswapped
    refine ⟨name, ?_, fun id => ?_⟩
    · rw [Mounted.count]
      unfold Segmented.documents
      rw [segments]
      rfl
    · rw [Mounted.find]
      unfold Segmented.find Segmented.documents
      rw [segments]
      rfl

end Pair
end

namespace Trial

def fresh : Pair Segmented := Root.blank.opened (fun _ => ()) none

def refilled : Pair Segmented :=
  ((world fresh).rebuild plan (parties 0).surroundings .epoch).2.site.generations

def waiting : Pair Segmented := (refilled.performReindex (.add [plan.builder.identity (.new 7)])).2

end Trial

theorem Pair.active_survives_reopening_trial :
    (Trial.waiting.standby.map fun standby => standby.engine.pending.length) = some 1 ∧
      ∃ (next : Pair Segmented) (nextStandby : Named Segmented),
        Trial.waiting.close.openPair 64 (fun _ => ()) = .ok next ∧
        next.standby = some nextStandby ∧ next.active.name = reindexName ∧ Engine.count next.active.engine = 2 ∧
        nextStandby.name = primaryName ∧ nextStandby.engine.pending = [] := by
  have opened : Root.blank.openPair 64 (fun _ => ()) = .ok Trial.fresh :=
    Root.openPair_ok.2 ⟨⟨by decide, by decide⟩, none, rfl, rfl⟩
  have rebuilt : Lived Trial.refilled _ := .rebuilt (.opened opened)
  have lived : Lived Trial.waiting _ := rebuilt.requested (.add [Trial.plan.builder.identity (.new 7)])
  obtain ⟨standby, dual, names, reopening, -⟩ := active_survives_reopening lived
  obtain ⟨next, opens⟩ := (reopening 64 fun _ => ()).1 ⟨by decide, by decide⟩
  obtain ⟨nextStandby, same, active, other⟩ := (reopening 64 fun _ => ()).2 next opens
  have name : Trial.waiting.active.name = reindexName := rfl
  have count : Engine.count Trial.waiting.active.engine = 2 := by decide +kernel
  have standbyName : standby.name = primaryName := by
    rcases names with ⟨primary, -⟩ | ⟨-, primary⟩
    · exact absurd (name.symm.trans primary) (by decide)
    · exact primary
  exact ⟨rfl, next, nextStandby, opens, same, active.name.trans name, active.count.trans count,
    other.name.trans standbyName, other.pending⟩

end CatalogIndex
