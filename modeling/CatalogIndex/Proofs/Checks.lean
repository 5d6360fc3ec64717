import CatalogIndex.Proofs.FirstFailure
import CatalogIndex.Proofs.Transactions
/-!
The checks for a cancellation. One that tells of it ends the rebuild. Nothing is swapped and nothing succeeds unless the
one that follows the compaction is passed, and after that one there is no other.
-/
namespace CatalogIndex

def Call.isPublishing : Call → Bool
  | .perform .optimize => true
  | .swap => true
  | _ => false

theorem Call.aside_of_isHandling {call : Call} (handling : call.isHandling = true) :
    call.isPublishing = false ∧ call ≠ .isCancelled := by
  unfold isHandling at handling
  split at handling <;> first | exact ⟨rfl, by simp⟩ | cases handling

def Aside (history : History) : Prop :=
  ∀ exchange ∈ history, exchange.1.isPublishing = false ∧ exchange.1 ≠ .isCancelled

/-- Whether the check that follows the compaction has been passed. -/
def History.Passed (history : History) : Prop :=
  ∃ before reply after, history = before ++ asked ⟨.optimize, reply⟩ :: ⟨.isCancelled, false⟩ :: after

/-- How a rebuild stands to the check that follows its compaction: it does not come to the compaction, or does not pass
the check, or it passes it as the last one. A check that tells of a cancellation ends the rebuild. -/
inductive Decides {α : Type} : History → Except Stop α → Prop where
  | unreached {history : History} {stop : Stop} (silent : ∀ exchange ∈ history, exchange.1.isPublishing = false)
      (told : ⟨.isCancelled, true⟩ ∈ history → stop = .failed .cancelled) : Decides history (.error stop)
  | held {front rest : History} {reply : Except SearchError Unit} {stop : Stop}
      (before : ∀ exchange ∈ front, exchange.1.isPublishing = false)
      (after : ∀ exchange ∈ rest, exchange.1.isPublishing = false) (unpassed : ⟨.isCancelled, false⟩ ∉ rest)
      (told : ⟨.isCancelled, true⟩ ∈ front ++ rest → stop = .failed .cancelled) :
      Decides (front ++ asked ⟨.optimize, reply⟩ :: rest) (.error stop)
  | passed {front rest : History} {reply : Except SearchError Unit} {outcome : Except Stop α}
      (before : ∀ exchange ∈ front, exchange.1.isPublishing = false) (untold : ⟨.isCancelled, true⟩ ∉ front)
      (last : ∀ exchange ∈ rest, exchange.1 ≠ .perform .optimize ∧ exchange.1 ≠ .isCancelled) :
      Decides (front ++ asked ⟨.optimize, reply⟩ :: ⟨.isCancelled, false⟩ :: rest) outcome

section

variable {α β : Type} {history before after front back : History} {outcome : Except Stop α}

theorem swaps_of_silent (silent : ∀ exchange ∈ history, exchange.1.isPublishing = false) : history.swaps = [] := by
  unfold History.swaps
  rw [List.filterMap_eq_nil_iff]
  intro exchange member
  have quiet := silent exchange member
  obtain ⟨call, reply⟩ := exchange
  cases call <;> first | rfl | cases quiet

theorem silent_of_pages (pages : ∀ exchange ∈ history, exchange.1.isPaging = true) :
    ∀ exchange ∈ history, exchange.1.isPublishing = false := by
  intro exchange member
  have paging := pages exchange member
  unfold Call.isPublishing
  split
  · rename_i same
    rw [same] at paging
    cases paging
  · rename_i same
    rw [same] at paging
    cases paging
  · rfl

theorem Aside.silent (aside : Aside history) : ∀ exchange ∈ history, exchange.1.isPublishing = false :=
  fun exchange member => (aside exchange member).1

theorem Aside.not_mem (aside : Aside history) (isCancelled : Bool) : ⟨.isCancelled, isCancelled⟩ ∉ history :=
  fun member => (aside _ member).2 rfl

theorem Aside.append (first : Aside before) (second : Aside after) : Aside (before ++ after) :=
  List.forall_mem_append.2 ⟨first, second⟩

theorem untold_of_passed {rest : History} {reply : Except SearchError Unit} (untold : ⟨.isCancelled, true⟩ ∉ front)
    (last : ∀ exchange ∈ rest, exchange.1 ≠ .perform .optimize ∧ exchange.1 ≠ .isCancelled) :
    ⟨.isCancelled, true⟩ ∉ front ++ asked ⟨.optimize, reply⟩ :: ⟨.isCancelled, false⟩ :: rest := by
  intro member
  rcases List.mem_append.1 member with early | later
  · exact untold early
  · cases later with
    | tail _ later =>
      cases later with
      | tail _ later => exact (last _ later).2 rfl

namespace Decides

theorem of_aside {stop : Stop} (aside : Aside history) : Decides history (.error stop : Except Stop α) :=
  .unreached aside.silent fun member => absurd member (aside.not_mem true)

theorem around {result : Except Stop β} (decides : Decides history outcome) (opening : Aside front)
    (ending : Aside back) (ends : ∀ stop, outcome = .error stop → result = .error stop) :
    Decides (front ++ (history ++ back)) result := by
  -- Nothing that stands around the part tells of a cancellation.
  have inside {part : History} (member : ⟨.isCancelled, true⟩ ∈ front ++ (part ++ back)) :
      ⟨.isCancelled, true⟩ ∈ part :=
    (List.mem_append.1 ((List.mem_append.1 member).resolve_left (opening.not_mem true))).resolve_right
      (ending.not_mem true)
  cases decides with
  | unreached silent told =>
    rw [ends _ rfl]
    refine .unreached ?_ fun member => told (inside member)
    exact List.forall_mem_append.2 ⟨opening.silent, List.forall_mem_append.2 ⟨silent, ending.silent⟩⟩
  | @held first rest reply stop before after unpassed told =>
    rw [ends _ rfl, List.append_assoc, List.cons_append, ← List.append_assoc front]
    refine .held (List.forall_mem_append.2 ⟨opening.silent, before⟩) (List.forall_mem_append.2 ⟨after, ending.silent⟩)
      ?_ fun member => told (inside ?_)
    · exact fun member => unpassed ((List.mem_append.1 member).resolve_right (ending.not_mem false))
    · rw [List.append_assoc, ← List.append_assoc first] at member
      exact member
  | @passed first rest reply outcome before untold last =>
    rw [List.append_assoc, List.cons_append, List.cons_append, ← List.append_assoc front]
    refine .passed (List.forall_mem_append.2 ⟨opening.silent, before⟩) ?_ (List.forall_mem_append.2 ⟨last, ?_⟩)
    · exact fun member => untold ((List.mem_append.1 member).resolve_left (opening.not_mem true))
    · intro exchange member
      obtain ⟨silent, unchecked⟩ := ending exchange member
      refine ⟨fun same => ?_, unchecked⟩
      rw [same] at silent
      cases silent

theorem cancelled_of_mem (decides : Decides history outcome) (mem : ⟨.isCancelled, true⟩ ∈ history) :
    outcome = .error (.failed .cancelled) := by
  cases decides with
  | unreached silent told => rw [told mem]
  | held before after unpassed told =>
    rw [told ?_]
    rcases List.mem_append.1 mem with first | later
    · exact List.mem_append_left _ first
    · cases later with
      | tail _ last => exact List.mem_append_right _ last
  | passed before untold last => exact absurd mem (untold_of_passed untold last)

theorem passed_of_success (decides : Decides history outcome)
    (success : history.swaps ≠ [] ∨ ∃ value, outcome = .ok value) : history.Passed := by
  have stopped {stop : Stop} (unswapped : history.swaps = []) (same : outcome = .error stop) : False := by
    rcases success with swaps | ⟨value, ok⟩
    · exact swaps unswapped
    · rw [ok] at same
      cases same
  cases decides with
  | unreached silent told => exact (stopped (swaps_of_silent silent) rfl).elim
  | held before after unpassed told =>
    have unswapped := swaps_of_silent (List.forall_mem_append.2 ⟨before, after⟩)
    rw [History.swaps_append] at unswapped
    refine (stopped ?_ rfl).elim
    rw [History.swaps_append]
    exact unswapped
  | passed before untold last => exact ⟨_, _, _, rfl⟩

theorem last_check (decides : Decides history outcome) {reply : Except SearchError Unit}
    (split : history = before ++ asked ⟨.optimize, reply⟩ :: ⟨.isCancelled, false⟩ :: after) :
    (∀ exchange ∈ after, exchange.1 ≠ .isCancelled) ∧ ⟨.isCancelled, true⟩ ∉ history := by
  have compacts {part : History} (silent : ∀ exchange ∈ part, exchange.1.isPublishing = false) :
      asked ⟨.optimize, reply⟩ ∉ part := by
    intro member
    cases silent _ member
  cases decides with
  | unreached silent told => exact absurd (History.mem_of_split split) (compacts silent)
  | held front rest unpassed told =>
    rcases History.places split with ⟨middle, -, whole⟩ | ⟨-, -, whole⟩ | ⟨middle, whole, -⟩
    · exact absurd (History.mem_of_split whole) (compacts rest)
    · exact absurd (whole ▸ List.mem_cons_self) unpassed
    · exact absurd (History.mem_of_split whole) (compacts front)
  | passed front untold last =>
    rcases History.places split with ⟨middle, -, whole⟩ | ⟨-, -, whole⟩ | ⟨middle, whole, -⟩
    · have member := History.mem_of_split whole
      cases member with
      | tail _ member => exact absurd rfl (last _ member).1
    · cases whole
      exact ⟨fun exchange member => (last exchange member).2, untold_of_passed untold last⟩
    · exact absurd (History.mem_of_split whole) (compacts front)

end Decides

theorem History.mem_drop_of_split {exchange : Exchange} {moment : Nat} (split : history = before ++ exchange :: after)
    (reached : moment ≤ before.length) : exchange ∈ history.drop moment := by
  rw [split, List.drop_append_of_le_length reached]
  exact List.mem_append_right _ List.mem_cons_self

theorem History.passed_take {reply : Except SearchError Unit} {moment : Nat}
    (split : history = before ++ asked ⟨.optimize, reply⟩ :: ⟨.isCancelled, false⟩ :: after)
    (beyond : before.length + 1 < moment) : History.Passed (history.take moment) := by
  obtain ⟨more, rfl⟩ :
      ∃ more, moment = (before ++ [asked ⟨.optimize, reply⟩, ⟨.isCancelled, false⟩]).length + more := by
    refine ⟨moment - (before.length + 2), ?_⟩
    rw [List.length_append, List.length_cons, List.length_singleton]
    omega
  have parts : history = (before ++ [asked ⟨.optimize, reply⟩, ⟨.isCancelled, false⟩]) ++ after := by
    rw [split, List.append_assoc]
    rfl
  refine ⟨before, reply, after.take more, ?_⟩
  rw [parts, List.take_length_add_append, List.append_assoc]
  rfl

namespace Decides

variable {moment : Nat}

/-- Where every check from some moment on tells of a cancellation, and the last one has not been passed by then, nothing
is swapped and nothing succeeds. -/
theorem unsuccessful (decides : Decides history outcome) (unpassed : ¬ History.Passed (history.take moment))
    (told : ∀ isCancelled, ⟨.isCancelled, isCancelled⟩ ∈ history.drop moment → isCancelled = true) :
    history.swaps = [] ∧ ∃ stop, outcome = .error stop := by
  -- The check that was passed came before the moment, for it did not tell of the cancellation.
  have never (success : history.swaps ≠ [] ∨ ∃ value, outcome = .ok value) : False := by
    obtain ⟨before, reply, after, split⟩ := decides.passed_of_success success
    refine unpassed (History.passed_take split ?_)
    rw [← Nat.not_le]
    intro early
    have checks : (before ++ [asked ⟨.optimize, reply⟩]).length = before.length + 1 := List.length_append
    rw [List.append_cons] at split
    cases told _ (History.mem_drop_of_split split (checks ▸ early))
  constructor
  · by_contra swaps
    exact never (.inl swaps)
  · cases same : outcome with
    | ok value => exact (never (.inr ⟨value, same⟩)).elim
    | error stop => exact ⟨stop, rfl⟩

theorem unchecked_of_passed (decides : Decides history outcome) (passed : History.Passed (history.take moment)) :
    (∀ exchange ∈ history.drop moment, exchange.1 ≠ .isCancelled) ∧ ⟨.isCancelled, true⟩ ∉ history := by
  obtain ⟨before, reply, after, split⟩ := passed
  have whole : history = before ++ asked ⟨.optimize, reply⟩ :: ⟨.isCancelled, false⟩ ::
      (after ++ history.drop moment) := by
    conv => lhs; rw [← List.take_append_drop moment history, split]
    simp only [List.append_assoc, List.cons_append]
  obtain ⟨last, untold⟩ := decides.last_check whole
  exact ⟨fun exchange member => last exchange (List.mem_append_right _ member), untold⟩

end Decides

end

namespace Run

variable {plan : Plan} {asOf : Instant} {request : RequestContext} {page : Nat} {known : Option (List Locale)}
  {history : History}

theorem aside_outside (question : Outside) (answer : Answer question.Reply) :
    Aside [⟨.outside question, answer⟩] := List.forall_mem_singleton.2 ⟨rfl, by simp⟩

theorem Transacts.aside {α : Type} {work : Run α} {outcome : Except Stop α}
    (works : ∀ {working result}, Goes work working result → ∃ question, Works question working)
    (transacts : Transacts work history outcome) : Aside history := by
  rcases transacts.opens with ⟨answer, stop, rfl, -⟩ | ⟨transaction, working, result, finishing, goes, rfl, ends, -⟩
  · exact aside_outside _ _
  · obtain ⟨question, answer, handling⟩ := works goes
    have handled : Aside _ := fun later member => Call.aside_of_isHandling (handling later member)
    have finished : Aside finishing := by
      rcases ends with rfl | ⟨isError, ending, finishes⟩
      · exact List.forall_mem_nil _
      · cases finishes with
        | left => exact List.forall_mem_nil _
        | asked => exact aside_outside _ _
    exact (aside_outside _ _).append (((aside_outside _ _).append handled).append finished)

theorem aside_of_page {outcome : Except Stop (Nat × List Locale)}
    (transacts : Transacts (writePage plan asOf request page known) history outcome) : Aside history :=
  transacts.aside fun goes => ⟨_, works_of_writePage goes⟩

theorem aside_of_count {outcome : Except Stop UInt64} (counts : Transacts (countWork asOf) history outcome) :
    Aside history :=
  counts.aside fun goes => ⟨_, works_of_countWork goes⟩

theorem Sweeps.cancelled_of_mem {total : UInt64} {progress : Progress} {outcome : Except Stop Progress}
    (sweeps : Sweeps plan asOf request total page known progress history outcome)
    (told : ⟨.isCancelled, true⟩ ∈ history) : outcome = .error (.failed .cancelled) := by
  induction sweeps with
  | ended => cases told
  | overflown => cases told
  | cancelled => rfl
  | stopped below transacts =>
    cases told with
    | tail _ member => exact absurd member ((aside_of_page transacts).not_mem true)
  | unheard below transacts =>
    cases told with
    | tail _ member =>
      cases (List.mem_append.1 member).resolve_left ((aside_of_page transacts).not_mem true) with
      | tail _ last => cases last
  | next below transacts sweeps ih =>
    cases told with
    | tail _ member =>
      cases (List.mem_append.1 member).resolve_left ((aside_of_page transacts).not_mem true) with
      | tail _ later => exact ih later

theorem aside_of_brokenClear {error : SearchError} {requests : List Request} (broken : BrokenClear error requests) :
    Aside (requests.map asked) := by
  cases broken <;> simp [Aside, asked, granted, refused, Call.isPublishing]

theorem aside_cleared (isShared : Bool) : Aside (cleared isShared) := by
  simp [Aside, cleared, clearing, asked, granted, Call.isPublishing]

theorem Sweeps.decides {total : UInt64} {stop : Stop}
    (sweeps : Sweeps plan asOf request total 0 none (planned plan asOf total) history (.error stop)) :
    Decides history (.error stop : Except Stop Report) := by
  refine .unreached (silent_of_pages (sweeps.pages rfl)) fun member => ?_
  cases sweeps.cancelled_of_mem member
  rfl

theorem Fills.undecided {isShared : Bool} {progress : Progress}
    (fills : Fills plan asOf request isShared history progress) :
    (∀ exchange ∈ history, exchange.1.isPublishing = false) ∧ ⟨.isCancelled, true⟩ ∉ history := by
  cases fills with
  | filled counts sweeps =>
    have opening := (aside_cleared isShared).append (aside_of_count counts)
    rw [← List.append_assoc]
    constructor
    · exact List.forall_mem_append.2 ⟨opening.silent, silent_of_pages (sweeps.pages rfl)⟩
    · intro member
      cases sweeps.cancelled_of_mem ((List.mem_append.1 member).resolve_left (opening.not_mem true))

theorem Phases.decides {outcome : Except Stop Report} (phases : Phases plan asOf request history outcome) :
    Decides history outcome := by
  -- Up to the compaction nothing is decided.
  have finalizing {isShared : Bool} {filling : History} {progress : Progress}
      (fills : Fills plan asOf request isShared filling progress) :
      (∀ exchange ∈ filling ++ [⟨.enter .finalizing, ()⟩], exchange.1.isPublishing = false) ∧
        ⟨.isCancelled, true⟩ ∉ filling ++ [⟨.enter .finalizing, ()⟩] := by
    obtain ⟨silent, untold⟩ := fills.undecided
    refine ⟨List.forall_mem_append.2 ⟨silent, List.forall_mem_singleton.2 rfl⟩, fun member => ?_⟩
    cases (List.mem_append.1 member).resolve_left untold with
    | tail _ last => cases last
  -- The check behind the compaction is the last one.
  have swapping {isShared : Bool} {filling ending : History} {progress : Progress} {outcome : Except Stop Report}
      (fills : Fills plan asOf request isShared filling progress)
      (last : ∀ exchange ∈ ending, exchange.1 ≠ .perform .optimize ∧ exchange.1 ≠ .isCancelled) :
      Decides (filling ++ (approved ++ ending)) outcome := by
    obtain ⟨silent, untold⟩ := finalizing fills
    have parts : filling ++ (approved ++ ending) = (filling ++ [⟨.enter .finalizing, ()⟩]) ++
        asked (granted .optimize) :: ⟨.isCancelled, false⟩ :: ⟨.enter .swapping, ()⟩ :: ending := by
      simp [approved]
    rw [parts]
    exact .passed silent untold (List.forall_mem_cons.2 ⟨⟨by simp, by simp⟩, last⟩)
  cases phases with
  | @uncleared isShared error requests broken =>
    exact .of_aside (List.forall_mem_cons.2 ⟨⟨rfl, by simp⟩, aside_of_brokenClear broken⟩)
  | uncounted counts => exact .of_aside ((aside_cleared _).append (aside_of_count counts))
  | @unswept isShared counting sweeping total stop counts sweeps =>
    have opening := (aside_cleared isShared).append (aside_of_count counts)
    have around := sweeps.decides.around opening (List.forall_mem_nil _) fun stop same => same
    rw [List.append_nil, List.append_assoc] at around
    exact around
  | uncompacted fills =>
    obtain ⟨silent, untold⟩ := finalizing fills
    rw [List.append_cons]
    refine .held silent (List.forall_mem_nil _) List.not_mem_nil fun member => absurd ?_ untold
    rw [List.append_nil] at member
    exact member
  | cancelled fills =>
    obtain ⟨silent, untold⟩ := finalizing fills
    rw [List.append_cons]
    refine .held silent (List.forall_mem_singleton.2 rfl) (fun member => ?_) fun _ => rfl
    cases List.mem_singleton.1 member
  | unswapped fills => exact swapping fills (by simp)
  | uncleaned fills broken => exact swapping fills (by cases broken <;> simp [asked, granted, refused])
  | @finished isShared filling progress swapped fills =>
    refine swapping fills ?_
    cases isShared <;> simp [clearing, asked, granted]

theorem Rebuilds.decides {outcome : Except Stop Report} (rebuilds : Rebuilds plan asOf history outcome) :
    Decides history outcome := by
  have opening (request : RequestContext) : Aside (entered request) := by simp [Aside, entered, Call.isPublishing]
  cases rebuilds with
  | rejected => exact .of_aside (List.forall_mem_singleton.2 ⟨rfl, by simp⟩)
  | panicked phases =>
    exact phases.decides.around (opening _) (by simp [Aside, Call.isPublishing]) fun stop same => by rw [same]
  | failed phases =>
    exact phases.decides.around (opening _) (by simp [Aside, Call.isPublishing]) fun stop same => by rw [same]
  | completed answer phases =>
    refine phases.decides.around (opening _) (by simp [Aside, Call.isPublishing]) fun stop impossible => ?_
    cases impossible

theorem Transacts.panics {α : Type} {work : Run α} {text : String}
    (tells : ∀ {working result}, Goes work working result → Tells working result)
    (transacts : Transacts work history (.error (.panicked text))) :
    ∃ question, ⟨.outside question, .panicked text⟩ ∈ history := by
  generalize result : (Except.error (.panicked text) : Except Stop α) = outcome at transacts
  cases transacts with
  | unbegun lost =>
    cases lost with
    | failed error => cases result
    | panicked text =>
      cases result
      exact ⟨_, List.mem_cons_self⟩
  | unfinished works finishes =>
    obtain ⟨text, rfl, rfl⟩ := finishes.unfinished
    cases result
    exact ⟨_, List.mem_cons_of_mem _ (List.mem_append_right _ List.mem_cons_self)⟩
  | notRolledBack works finishes =>
    obtain ⟨text, rfl, rfl⟩ := finishes.unfinished
    cases result
    exact ⟨_, List.mem_cons_of_mem _ (List.mem_append_right _ List.mem_cons_self)⟩
  | dropped works =>
    cases result
    cases tells works with
    | panicked smooth last => exact ⟨_, List.mem_cons_of_mem _ last.mem⟩
  | _ => cases result

/-- A sweep panics by itself only over a total and a page size that together do not fit a word. Until then each page
before has begun below the total. -/
theorem Sweeps.panics {total : UInt64} {progress : Progress} {text : String}
    (sweeps : Sweeps plan asOf request total page known progress history (.error (.panicked text)))
    (reached : page * plan.config.pageSize.toNat < total.toNat + plan.config.pageSize.toNat) :
    (∃ question, ⟨.outside question, .panicked text⟩ ∈ history) ∨
      .panicked text = overflow ∧ UInt64.size < total.toNat + plan.config.pageSize.toNat := by
  generalize result : (Except.error (.panicked text) : Except Stop Progress) = outcome at sweeps
  induction sweeps with
  | ended => cases result
  | overflown overflows => exact .inr ⟨Except.error.inj result, Nat.lt_of_le_of_lt overflows reached⟩
  | cancelled => cases result
  | stopped below transacts =>
    cases result
    obtain ⟨question, panics⟩ := transacts.panics tells_of_writePage
    exact .inl ⟨question, List.mem_cons_of_mem _ panics⟩
  | unheard below transacts =>
    cases result
    exact .inl ⟨_, List.mem_cons_of_mem _ (List.mem_append_right _ List.mem_cons_self)⟩
  | @next page known progress paging rest written locales outcome below transacts sweeps ih =>
    have further : (page + 1) * plan.config.pageSize.toNat < total.toNat + plan.config.pageSize.toNat := by
      rw [Nat.succ_mul]
      omega
    rcases ih further result with ⟨question, panics⟩ | overflown
    · exact .inl ⟨question, List.mem_cons_of_mem _ (List.mem_append_right _ (List.mem_cons_of_mem _ panics))⟩
    · exact .inr overflown

theorem Transacts.tells_total {total : UInt64} (counts : Transacts (countWork asOf) history (.ok total)) :
    ⟨.outside (.count asOf), .returned (.ok total)⟩ ∈ history := by
  cases counts with
  | committed works finishes =>
    obtain ⟨answer, rfl, returned⟩ := goes_countWork works
    rw [(returned total).1 rfl]
    exact List.mem_cons_of_mem _ List.mem_cons_self

theorem Rebuilds.panics {text : String} (rebuilds : Rebuilds plan asOf history (.error (.panicked text))) :
    (∃ question, ⟨.outside question, .panicked text⟩ ∈ history) ∨
      .panicked text = overflow ∧ ∃ total : UInt64, ⟨.outside (.count asOf), .returned (.ok total)⟩ ∈ history ∧
        UInt64.size < total.toNat + plan.config.pageSize.toNat := by
  generalize result : (Except.error (.panicked text) : Except Stop Report) = outcome at rebuilds
  cases rebuilds with
  | rejected => cases result
  | failed phases => cases result
  | @completed request middle report answer phases =>
    cases answer with
    | returned reply => cases result
    | panicked text =>
      cases result
      refine .inl ⟨.report report.progress.complete, List.mem_append_right _ (List.mem_append_right _ ?_)⟩
      exact List.mem_cons_of_mem _ (List.mem_cons_of_mem _ List.mem_cons_self)
  | @panicked request middle text phases =>
    cases result
    have inside {exchange : Exchange} (member : exchange ∈ middle) :
        exchange ∈ entered request ++ (middle ++ [⟨.restore request, ()⟩, ⟨.release, ()⟩]) :=
      List.mem_append_right _ (List.mem_append_left _ member)
    cases phases with
    | uncounted counts =>
      obtain ⟨question, panics⟩ := counts.panics tells_of_countWork
      exact .inl ⟨question, inside (List.mem_append_right _ panics)⟩
    | @unswept isShared counting sweeping total stop counts sweeps =>
      have positive : 0 < plan.config.pageSize.toNat :=
        Nat.pos_of_ne_zero fun isZero => plan.pageSize_ne_zero (UInt64.toNat_inj.1 isZero)
      have reached : 0 * plan.config.pageSize.toNat < total.toNat + plan.config.pageSize.toNat := by omega
      rcases sweeps.panics reached with ⟨question, panics⟩ | ⟨same, huge⟩
      · exact .inl ⟨question, inside (List.mem_append_right _ (List.mem_append_right _ panics))⟩
      · exact .inr ⟨same, total, inside (List.mem_append_right _ (List.mem_append_left _ counts.tells_total)), huge⟩

end Run
end CatalogIndex
