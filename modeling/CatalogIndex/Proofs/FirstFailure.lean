import CatalogIndex.Proofs.Failures
/-!
The first failure of a rebuild. Whatever call fails first, what follows only rolls back and winds the rebuild up,
and the rebuild ends with this failure.
-/
namespace CatalogIndex

/-- An outcome that the failures of its history explain, or a cancellation, or an overflow after some page, or a
rollback that panics. -/
inductive Explains {α : Type} (history : History) : Except Stop α → Prop where
  | told {outcome : Except Stop α} (tells : Tells history outcome) : Explains history outcome
  | cancelled (smooth : Smooth history) (last : Last ⟨.isCancelled, true⟩ history) :
      Explains history (.error (.failed .cancelled))
  | overflowed {progress : Progress} (smooth : Smooth history)
      (last : Last ⟨.outside (.report progress), .returned ()⟩ history) : Explains history (.error Run.overflow)
  | unwound {error : RebuildError} {transaction : Transaction} {text : String} (fails : Fails error history)
      (panics : ⟨.outside (.finish transaction .rollback), .panicked text⟩ ∈ history) :
      Explains history (.error (.panicked text))

section

variable {α β : Type} {before after history : History} {exchange : Exchange} {outcome : Except Stop α}
  {error : RebuildError} {stop : Stop}

namespace Explains

theorem smooth {value : α} (explains : Explains history (.ok value : Except Stop α)) : Smooth history := by
  cases explains with
  | told tells =>
    cases tells with
    | passed smooth => exact smooth

theorem append_left (smooth : Smooth before) (explains : Explains history outcome) :
    Explains (before ++ history) outcome := by
  cases explains with
  | told tells => exact .told (tells.append_left smooth)
  | cancelled later last => exact .cancelled (smooth_append.2 ⟨smooth, later⟩) last.append_left
  | overflowed later last => exact .overflowed (smooth_append.2 ⟨smooth, later⟩) last.append_left
  | unwound fails panics => exact .unwound (fails.append_left smooth) (List.mem_append_right _ panics)

theorem cons (sound : exchange.fails = false) (explains : Explains history outcome) :
    Explains (exchange :: history) outcome := append_left (smooth_single sound) explains

theorem append_right (explains : Explains history (.error stop : Except Stop α))
    (closing : ∀ later ∈ after, later.1.isClosing = true) :
    Explains (history ++ after) (.error stop : Except Stop β) := by
  have onward := smooth_of_closing closing
  cases explains with
  | told tells =>
    cases tells with
    | failed fails => exact .told (.failed (fails.append_right closing))
    | panicked smooth last => exact .told (.panicked (smooth_append.2 ⟨smooth, onward⟩) (last.append_right closing))
  | cancelled smooth last => exact .cancelled (smooth_append.2 ⟨smooth, onward⟩) (last.append_right closing)
  | overflowed smooth last => exact .overflowed (smooth_append.2 ⟨smooth, onward⟩) (last.append_right closing)
  | unwound fails panics => exact .unwound (fails.append_right closing) (List.mem_append_left _ panics)

theorem of_error (explains : Explains history (.error stop : Except Stop α)) :
    Explains history (.error stop : Except Stop β) := by
  rw [← List.append_nil history]
  exact explains.append_right (List.forall_mem_nil _)

/-- A failure is the only one, only winding up comes after it, and nothing but a panic of a rollback takes its
place. -/
theorem of_failure (explains : Explains (before ++ exchange :: after) outcome)
    (failed : exchange.failure? before.getLast? = some error) :
    Smooth before ∧ (∀ later ∈ after, later.1.isClosing = true) ∧
      (outcome = .error (.failed error) ∨ ∃ transaction text,
        ⟨.outside (.finish transaction .rollback), .panicked text⟩ ∈ before ++ exchange :: after ∧
          outcome = .error (.panicked text)) := by
  have fatal := Exchange.fails_of_failure? failed
  have present : exchange ∈ before ++ exchange :: after := List.mem_append_right _ List.mem_cons_self
  -- There is a failure in the history, which leaves only the explanations by one.
  have absent (smooth : Smooth (before ++ exchange :: after)) : False := by
    have sound := smooth exchange present
    rw [fatal] at sound
    cases sound
  have single {cause : RebuildError} (fails : Fails cause (before ++ exchange :: after)) :
      cause = error ∧ Smooth before ∧ ∀ later ∈ after, later.1.isClosing = true := by
    obtain ⟨smooth, told, closing⟩ := fails.unique fatal
    rw [failed] at told
    exact ⟨(Option.some.inj told).symm, smooth, closing⟩
  cases explains with
  | told tells =>
    cases tells with
    | passed smooth => exact (absent smooth).elim
    | failed fails =>
      obtain ⟨rfl, smooth, closing⟩ := single fails
      exact ⟨smooth, closing, .inl rfl⟩
    | panicked smooth last => exact (absent smooth).elim
  | cancelled smooth last => exact (absent smooth).elim
  | overflowed smooth last => exact (absent smooth).elim
  | unwound fails panics =>
    obtain ⟨rfl, smooth, closing⟩ := single fails
    exact ⟨smooth, closing, .inr ⟨_, _, panics, rfl⟩⟩

theorem failed (explains : Explains history (.error (.failed error) : Except Stop α)) :
    (error = .cancelled ∧ ⟨.isCancelled, true⟩ ∈ history ∧ Smooth history) ∨
      ∃ before exchange after, history = before ++ exchange :: after ∧
        exchange.failure? before.getLast? = some error := by
  cases explains with
  | told tells =>
    cases tells with
    | failed fails =>
      obtain @⟨before, after, exchange, smooth, told, closing⟩ := fails
      have here := told none
      rw [Option.or_none] at here
      exact .inr ⟨before, exchange, after, rfl, here⟩
  | cancelled smooth last => exact .inl ⟨rfl, last.mem, smooth⟩

theorem last (explains : Explains history (.error stop : Except Stop α)) :
    ∃ exchange, Last exchange history ∧ exchange.isResolution = false := by
  cases explains with
  | told tells =>
    cases tells with
    | failed fails =>
      obtain ⟨exchange, fatal, last⟩ := fails.last
      exact ⟨exchange, last, Exchange.not_isResolution_of_fails fatal⟩
    | @panicked question text smooth last =>
      refine ⟨_, last, ?_⟩
      unfold Exchange.isResolution
      split
      · rename_i same
        cases same
      · rfl
  | cancelled smooth last => exact ⟨_, last, rfl⟩
  | overflowed smooth last => exact ⟨_, last, rfl⟩
  | unwound fails panics =>
    obtain ⟨exchange, fatal, last⟩ := fails.last
    exact ⟨exchange, last, Exchange.not_isResolution_of_fails fatal⟩

end Explains
end

namespace Run

variable {plan : Plan} {asOf : Instant} {request : RequestContext} {page : Nat} {known : Option (List Locale)}
  {history : History}

theorem Transacts.explains {α : Type} {work : Run α} {outcome : Except Stop α}
    (tells : ∀ {working result}, Goes work working result → Tells working result)
    (transacts : Transacts work history outcome) : Explains history outcome := by
  cases transacts with
  | unbegun lost => exact .told (.of_lost (fun _ _ => rfl) (fun _ => .panic rfl) lost)
  | committed works finishes =>
    apply Explains.cons rfl
    cases tells works with
    | passed smooth => exact .told (.passed (smooth_append.2 ⟨smooth, finishes.smooth⟩))
  | uncommitted works finishes =>
    apply Explains.cons rfl
    cases tells works with
    | passed smooth => exact .told (.failed (finishes.fails.append_left smooth))
  | unfinished works finishes =>
    apply Explains.cons rfl
    obtain ⟨text, rfl, rfl⟩ := finishes.unfinished
    cases tells works with
    | passed smooth => exact .told ((Tells.panic rfl).append_left smooth)
  | rolledBack works finishes =>
    apply Explains.cons rfl
    exact (Explains.told (tells works)).append_right finishes.closing
  | notRolledBack works finishes =>
    apply Explains.cons rfl
    -- A rollback that panics takes the place of the failure for which it was asked.
    have closing := finishes.closing
    obtain ⟨text, rfl, rfl⟩ := finishes.unfinished
    cases tells works with
    | failed fails =>
      exact .unwound (fails.append_right closing) (List.mem_append_right _ List.mem_cons_self)
  | dropped works =>
    apply Explains.cons rfl
    exact .told (tells works)

/-- The product that may overflow is zero for the first page, so an overflow comes after some other page. -/
theorem Sweeps.explains {total : UInt64} {progress : Progress} {outcome : Except Stop Progress}
    (sweeps : Sweeps plan asOf request total page known progress history outcome) :
    (page ≠ 0 ∧ history = [] ∧ outcome = .error overflow) ∨ Explains history outcome := by
  induction sweeps with
  | ended => exact .inr (.told (.passed smooth_nil))
  | @overflown page known progress overflows =>
    refine .inl ⟨?_, rfl, rfl⟩
    rintro rfl
    rw [Nat.zero_mul] at overflows
    exact absurd overflows (by decide)
  | cancelled => exact .inr (.cancelled (smooth_single rfl) (.single rfl))
  | stopped below transacts => exact .inr ((transacts.explains tells_of_writePage).cons rfl).of_error
  | unheard below transacts =>
    have paged := (transacts.explains tells_of_writePage).smooth
    exact .inr (.told (((Tells.panic rfl).append_left paged).cons rfl))
  | next below transacts sweeps ih =>
    have paged := (transacts.explains tells_of_writePage).smooth
    right
    apply Explains.cons rfl
    apply Explains.append_left paged
    rcases ih with ⟨-, rfl, rfl⟩ | explains
    · exact .overflowed (smooth_single rfl) (.single rfl)
    · exact explains.cons rfl

theorem Sweeps.smooth {total : UInt64} {progress last : Progress}
    (sweeps : Sweeps plan asOf request total page known progress history (.ok last)) : Smooth history := by
  rcases sweeps.explains with ⟨-, -, impossible⟩ | explains
  · cases impossible
  · exact explains.smooth

theorem smooth_cleared (isShared : Bool) : Smooth (cleared isShared) :=
  smooth_cons.2 ⟨rfl, smooth_append.2 ⟨smooth_clearing, smooth_single rfl⟩⟩

theorem smooth_approved : Smooth approved := by
  simp [approved, Smooth, asked, granted, Exchange.fails, Exchange.failure?]

theorem Fills.smooth {isShared : Bool} {progress : Progress}
    (fills : Fills plan asOf request isShared history progress) : Smooth history := by
  cases fills with
  | filled counts sweeps =>
    have counted := (counts.explains tells_of_countWork).smooth
    exact smooth_append.2 ⟨smooth_cleared _, smooth_append.2 ⟨counted, sweeps.smooth⟩⟩

theorem Phases.explains {outcome : Except Stop Report} (phases : Phases plan asOf request history outcome) :
    Explains history outcome := by
  cases phases with
  | uncleared broken => exact .told (.failed ((fails_of_brokenClear broken).cons rfl))
  | uncounted counts => exact ((counts.explains tells_of_countWork).append_left (smooth_cleared _)).of_error
  | unswept counts sweeps =>
    have counted := (counts.explains tells_of_countWork).smooth
    -- The first page cannot overflow.
    rcases sweeps.explains with ⟨nonzero, -, -⟩ | explains
    · exact absurd rfl nonzero
    · exact ((explains.append_left counted).append_left (smooth_cleared _)).of_error
  | uncompacted fills =>
    apply Explains.append_left fills.smooth
    exact .told (.failed ((Fails.single fun previous => rfl).cons rfl))
  | cancelled fills =>
    apply Explains.append_left fills.smooth
    apply Explains.cons rfl
    apply Explains.cons rfl
    exact .cancelled (smooth_single rfl) (.single rfl)
  | unswapped fills =>
    apply Explains.append_left fills.smooth
    apply Explains.append_left smooth_approved
    exact .told (.failed (.single fun previous => rfl))
  | uncleaned fills broken =>
    apply Explains.append_left fills.smooth
    apply Explains.append_left smooth_approved
    apply Explains.cons rfl
    apply Explains.cons rfl
    exact .told (.failed (fails_of_brokenClear broken))
  | @finished isShared filling progress swapped fills =>
    have cleaning : Smooth (if isShared then [] else clearing.map asked) := by
      split
      · exact smooth_nil
      · exact smooth_clearing
    refine .told (.passed (smooth_append.2 ⟨fills.smooth, smooth_append.2 ⟨smooth_approved, ?_⟩⟩))
    exact smooth_cons.2 ⟨rfl, smooth_cons.2 ⟨rfl, cleaning⟩⟩

theorem smooth_entered (request : RequestContext) : Smooth (entered request) :=
  smooth_cons.2 ⟨rfl, smooth_cons.2 ⟨rfl, smooth_single rfl⟩⟩

theorem Rebuilds.explains {outcome : Except Stop Report} (rebuilds : Rebuilds plan asOf history outcome) :
    (history = [⟨.acquire, false⟩] ∧ outcome = .error (.failed .alreadyRunning)) ∨ Explains history outcome := by
  cases rebuilds with
  | rejected => exact .inl ⟨rfl, rfl⟩
  | panicked phases =>
    right
    apply Explains.append_left (smooth_entered _)
    exact phases.explains.append_right (by simp [Call.isClosing])
  | failed phases =>
    right
    apply Explains.append_left (smooth_entered _)
    exact phases.explains.append_right (by simp [Call.isClosing])
  | @completed request middle report answer phases =>
    right
    apply Explains.append_left (smooth_entered _)
    apply Explains.append_left phases.explains.smooth
    apply Explains.cons rfl
    apply Explains.cons rfl
    cases answer with
    | returned reply => exact .told (.passed (smooth_cons.2 ⟨rfl, smooth_single rfl⟩))
    | panicked text =>
      show Explains ([⟨.outside (.report report.progress.complete), .panicked text⟩] ++ [⟨.release, ()⟩]) _
      have unheard : Explains [⟨.outside (.report report.progress.complete), .panicked text⟩]
          (.error (.panicked text) : Except Stop Report) := .told (.panic rfl)
      exact unheard.append_right (List.forall_mem_singleton.2 rfl)

theorem Rebuilds.last {outcome : Except Stop Report} (rebuilds : Rebuilds plan asOf history outcome) :
    ∃ exchange, Last exchange history ∧ exchange.isResolution = false := by
  cases rebuilds with
  | rejected => exact ⟨_, .single rfl, rfl⟩
  | panicked phases =>
    obtain ⟨exchange, last, other⟩ := phases.explains.last
    exact ⟨exchange, (last.append_right (by simp [Call.isClosing])).append_left, other⟩
  | failed phases =>
    obtain ⟨exchange, last, other⟩ := phases.explains.last
    exact ⟨exchange, (last.append_right (by simp [Call.isClosing])).append_left, other⟩
  | @completed request middle report answer phases =>
    refine ⟨⟨.outside (.report report.progress.complete), answer⟩, ?_, rfl⟩
    have closing : ∀ later ∈ ([⟨.release, ()⟩] : History), later.1.isClosing = true :=
      List.forall_mem_singleton.2 rfl
    rw [← List.append_assoc, List.append_cons, List.append_cons]
    exact .intro rfl closing

end Run

namespace World

variable {γ σ : Type} [Engine γ]

/-- Whatever fails first, a rebuild only rolls back and winds up after it and ends with that failure; nothing else
fails before, and a rollback that fails, unlike one that panics, takes nothing from it. Conversely each failure of a
rebuild that has begun and has not been cancelled is that of a call. A descriptor that cannot be resolved ends
nothing. -/
theorem first_failure_wins (plan : Plan) (surroundings : Surroundings σ) (asOf : Instant) (world : World γ σ) :
    (∀ before exchange after error, world.history plan surroundings asOf = before ++ exchange :: after →
      exchange.failure? before.getLast? = some error →
        (∀ earlier ∈ before, earlier.fails = false) ∧ (∀ later ∈ after, later.1.isClosing = true) ∧
          ((world.rebuild plan surroundings asOf).1 = .error (.failed error) ∨
            ∃ transaction text,
              ⟨.outside (.finish transaction .rollback), .panicked text⟩ ∈ world.history plan surroundings asOf ∧
                (world.rebuild plan surroundings asOf).1 = .error (.panicked text))) ∧
    (∀ error, (world.rebuild plan surroundings asOf).1 = .error (.failed error) →
      (error = .alreadyRunning ∧ world.history plan surroundings asOf = [⟨.acquire, false⟩]) ∨
      (error = .cancelled ∧ ⟨.isCancelled, true⟩ ∈ world.history plan surroundings asOf ∧
        ∀ exchange ∈ world.history plan surroundings asOf, exchange.fails = false) ∨
      ∃ before exchange after, world.history plan surroundings asOf = before ++ exchange :: after ∧
        exchange.failure? before.getLast? = some error) ∧
    (∀ before exchange after, world.history plan surroundings asOf = before ++ exchange :: after →
      exchange.isResolution = true → ∃ later ∈ after, later.1.isClosing = false) := by
  have rebuilds := World.rebuilds plan surroundings asOf world
  refine ⟨?_, ?_, ?_⟩
  · intro before exchange after error split failed
    rcases rebuilds.explains with ⟨rejected, -⟩ | explains
    · rw [rejected] at split
      have here : exchange ∈ ([⟨.acquire, false⟩] : History) := by
        rw [split]
        exact List.mem_append_right _ List.mem_cons_self
      rw [List.mem_singleton.1 here] at failed
      cases failed
    · rw [split] at explains ⊢
      exact explains.of_failure failed
  · intro error failed
    rcases rebuilds.explains with ⟨rejected, same⟩ | explains
    · rw [failed] at same
      cases same
      exact .inl ⟨rfl, rejected⟩
    · rw [failed] at explains
      exact .inr explains.failed
  · intro before exchange after split resolution
    -- The last call that does not wind the rebuild up is no resolution, so it comes behind this one.
    obtain ⟨final, last, other⟩ := rebuilds.last
    rw [split] at last
    refine ⟨final, last.mem_after ?_ (Exchange.forward_of_isResolution resolution), last.forward⟩
    rintro rfl
    rw [resolution] at other
    cases other

end World
end CatalogIndex
