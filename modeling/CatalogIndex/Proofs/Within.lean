import CatalogIndex.Proofs.Course
/-!
The running mark of a rebuild. Only its outermost layer sets the mark and takes it away, so whatever is asked of
parties from outside is asked while the mark stands.
-/
namespace CatalogIndex

/-- Whether a call leaves the running mark alone. -/
def Call.isInner : Call → Bool
  | .acquire | .release => false
  | _ => true

/-- A history in which parties from outside are asked only while the running mark stands. -/
def Guarded : Bool → History → Prop
  | _, [] => True
  | _, ⟨.acquire, _⟩ :: rest => Guarded true rest
  | _, ⟨.release, _⟩ :: rest => Guarded false rest
  | running, ⟨.outside _, _⟩ :: rest => running = true ∧ Guarded running rest
  | running, _ :: rest => Guarded running rest

theorem guarded_append {inner rest : History} (within : ∀ exchange ∈ inner, exchange.1.isInner = true)
    (guarded : Guarded true rest) : Guarded true (inner ++ rest) := by
  induction inner with
  | nil => exact guarded
  | cons exchange inner ih =>
    have later := ih fun other member => within other (List.mem_cons_of_mem _ member)
    have first := within exchange List.mem_cons_self
    obtain ⟨call, reply⟩ := exchange
    cases call with
    | acquire => cases first
    | release => cases first
    | outside question => exact ⟨rfl, later⟩
    | _ => exact later

namespace Run

variable {α β ε : Type}

def Within (part : Run α) : Prop :=
  ∀ (history : History) (outcome : Except Stop α), Goes part history outcome →
    ∀ exchange ∈ history, exchange.1.isInner = true

theorem within_pure (value : α) : Within (pure value) := by
  intro history outcome goes exchange member
  rw [(goes_pure.1 goes).1] at member
  cases member

theorem within_throw (stop : Stop) : Within (throw stop : Run α) := by
  intro history outcome goes exchange member
  rw [(goes_throw.1 goes).1] at member
  cases member

theorem within_ask {call : Call} (inner : call.isInner = true) : Within (ask call) := by
  intro history outcome goes exchange member
  obtain ⟨reply, rfl, rfl⟩ := goes_ask.1 goes
  obtain rfl := List.mem_singleton.1 member
  exact inner

theorem within_bind {part : Run α} {next : α → Run β} (first : Within part)
    (later : ∀ value, Within (next value)) : Within (part >>= next) := by
  intro history outcome goes exchange member
  rcases goes_bind.1 goes with ⟨stop, stopped, rfl⟩ | ⟨value, before, after, begins, ends, rfl⟩
  · exact first _ _ stopped exchange member
  · rcases List.mem_append.1 member with member | member
    · exact first _ _ begins exchange member
    · exact later value _ _ ends exchange member

theorem within_settle {part : Run α} (within : Within part) : Within (settle part) := by
  intro history outcome goes
  obtain ⟨result, settled, rfl⟩ := goes_settle.1 goes
  exact within _ _ settled

theorem within_expect (wrap : ε → RebuildError) (result : Except ε α) : Within (expect wrap result) := by
  cases result with
  | ok value => exact within_pure value
  | error error => exact within_throw _

theorem within_resume (result : Except Stop α) : Within (resume result) := by
  cases result with
  | ok value => exact within_pure value
  | error stop => exact within_throw stop

theorem within_outside (question : Outside) : Within (outside question) := by
  refine within_bind (within_ask rfl) fun answer => ?_
  cases answer with
  | returned value => exact within_pure value
  | panicked text => exact within_throw _

theorem within_consult (consultation : Consultation α) : Within (consult consultation) := by
  induction consultation with
  | done value => exact within_pure value
  | ask question next ih => exact within_bind (within_outside (.handler question)) fun reply => ih reply

theorem within_maintain (maintenance : Maintenance α) : Within (maintain maintenance) := by
  induction maintenance with
  | done value => exact within_pure value
  | ask operation next ih =>
    have inner : (Call.perform operation).isInner = true := rfl
    exact within_bind (within_ask inner) fun reply => ih reply

theorem within_checkCancelled : Within checkCancelled := by
  refine within_bind (within_ask rfl) fun isCancelled => ?_
  cases (isCancelled : Bool) with
  | false => exact within_pure ()
  | true => exact within_throw _

theorem within_finish (transaction : Transaction) (isError : Bool) : Within (finish transaction isError) := by
  unfold finish
  split
  · exact within_pure _
  · exact within_outside _

theorem within_inTransaction {work : Run α} (within : Within work) : Within (inTransaction work) := by
  refine within_bind (within_outside _) fun reply => within_bind (within_expect _ _) fun transaction => ?_
  refine within_bind (within_settle within) fun result => ?_
  match result with
  | .ok value =>
    exact within_bind (within_finish _ _) fun reply =>
      within_bind (within_expect _ _) fun _ => within_pure _
  | .error (.failed error) => exact within_bind (within_finish _ _) fun _ => within_throw _
  | .error (.panicked text) => exact within_throw _

theorem within_clear : Within clear := within_bind (within_maintain _) fun _ => within_expect _ _

theorem within_localesOnce (known : Option (List Locale)) : Within (localesOnce known) := by
  cases known with
  | some locales => exact within_pure _
  | none => exact within_bind (within_outside _) fun _ => within_expect _ _

theorem within_buildPage (plan : Plan) (asOf : Instant) (request : RequestContext) (page : Nat)
    (known : Option (List Locale)) : Within (buildPage plan asOf request page known) := by
  refine within_bind (within_outside _) fun _ => within_bind (within_expect _ _) fun items => ?_
  refine within_bind (within_outside _) fun _ => within_bind (within_expect _ _) fun descriptors => ?_
  refine within_bind (within_localesOnce _) fun locales => ?_
  refine within_bind (within_consult _) fun _ => within_bind (within_expect _ _) fun documents => ?_
  exact within_pure _

theorem within_writePage (plan : Plan) (asOf : Instant) (request : RequestContext) (page : Nat)
    (known : Option (List Locale)) : Within (writePage plan asOf request page known) := by
  refine within_bind (within_buildPage _ _ _ _ _) fun built => ?_
  refine within_bind (within_maintain _) fun _ => within_bind (within_expect _ _) fun written => ?_
  exact within_pure _

theorem within_sweep (plan : Plan) (asOf : Instant) (request : RequestContext) (total : UInt64)
    (fuel page : Nat) (known : Option (List Locale)) (progress : Progress) :
    Within (sweep plan asOf request total fuel page known progress) := by
  induction fuel generalizing page known progress with
  | zero => exact within_pure _
  | succ fuel ih =>
    unfold sweep
    dsimp only
    split
    · exact within_throw _
    · split
      · refine within_bind within_checkCancelled fun _ => ?_
        refine within_bind (within_inTransaction (within_writePage _ _ _ _ _)) fun written => ?_
        exact within_bind (within_outside _) fun _ => ih _ _ _
      · exact within_pure _

theorem within_phases (plan : Plan) (asOf : Instant) (request : RequestContext) :
    Within (phases plan asOf request) := by
  refine within_bind (within_ask rfl) fun isShared => within_bind within_clear fun _ => ?_
  refine within_bind (within_ask rfl) fun _ => ?_
  refine within_bind (within_inTransaction (within_bind (within_outside _) fun _ => within_expect _ _))
    fun total => ?_
  refine within_bind (within_sweep _ _ _ _ _ _ _ _) fun progress => ?_
  refine within_bind (within_ask rfl) fun _ => within_bind (within_maintain _) fun _ => ?_
  refine within_bind (within_expect _ _) fun _ => within_bind within_checkCancelled fun _ => ?_
  refine within_bind (within_ask rfl) fun _ => within_bind (within_ask rfl) fun _ => ?_
  refine within_bind (within_expect _ _) fun swapped => within_bind (within_ask rfl) fun _ => ?_
  cases (isShared : Bool) with
  | true => exact within_pure _
  | false => exact within_bind within_clear fun _ => within_pure _

theorem within_concluded (plan : Plan) (asOf : Instant) : Within (concluded plan asOf) := by
  have within : Within (guarded plan asOf) := by
    refine within_bind (within_ask rfl) fun _ => within_bind (within_ask rfl) fun request => ?_
    refine within_bind (within_settle (within_phases _ _ _)) fun outcome => ?_
    exact within_bind (within_ask rfl) fun _ => within_resume _
  refine within_bind (within_settle within) fun result => ?_
  match result with
  | .ok report =>
    exact within_bind (within_ask rfl) fun _ => within_bind (within_outside _) fun _ => within_pure _
  | .error (.failed error) => exact within_bind (within_ask rfl) fun _ => within_throw _
  | .error (.panicked text) => exact within_throw _

theorem guarded_of_goes {plan : Plan} {asOf : Instant} {history : History} {outcome : Except Stop Report}
    {running : Bool} (goes : Goes (rebuild plan asOf) history outcome) : Guarded running history := by
  obtain ⟨acquired, rest, rfl, working⟩ := goes_ask_bind.1 goes
  cases (acquired : Bool) with
  | false =>
    obtain ⟨rfl, rfl⟩ := goes_throw.1 working
    trivial
  | true =>
    obtain ⟨result, concluding, rest, first, releasing, rfl⟩ := goes_settle_bind.1 working
    obtain ⟨⟨⟩, rest, rfl, last⟩ := goes_ask_bind.1 releasing
    obtain ⟨rfl, rfl⟩ := goes_resume.1 last
    have within : ∀ exchange ∈ concluding, exchange.1.isInner = true := within_concluded plan asOf _ _ first
    exact guarded_append within (by trivial)

end Run
end CatalogIndex
