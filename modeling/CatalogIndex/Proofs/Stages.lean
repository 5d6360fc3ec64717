import CatalogIndex.Proofs.Parts
/-!
The histories of a whole rebuild: its pages, each inside a transaction, the sweep over all of them, the phases
around the sweep, and what stands around the phases. A history of a stage is put together from histories of the
parts, and every way in which the stage can end is a case of its own.
-/
namespace CatalogIndex.Run

variable {α : Type} {history : History}

def begun (transaction : Transaction) : Exchange :=
  ⟨.outside (.begin (.forReading transactionName)), .returned (.ok transaction)⟩

/-- What ending a transaction can go through; one that is rollback-only is left alone. -/
inductive Finishes (transaction : Transaction) (isError : Bool) :
    History → Except Stop (Except TransactionError Unit) → Prop where
  | left (left : transaction.ending isError = none) : Finishes transaction isError [] (.ok (.ok ()))
  | asked {ending : Ending} (asks : transaction.ending isError = some ending)
      (answer : Answer (Except TransactionError Unit)) :
      Finishes transaction isError [⟨.outside (.finish transaction ending), answer⟩] answer.outcome

inductive Transacts (work : Run α) : History → Except Stop α → Prop where
  | unbegun {answer : Answer (Except TransactionError Transaction)} {stop : Stop}
      (lost : Lost .transaction answer stop) :
      Transacts work [⟨.outside (.begin (.forReading transactionName)), answer⟩] (.error stop)
  | committed {transaction : Transaction} {working finishing : History} {value : α}
      (works : Goes work working (.ok value)) (finishes : Finishes transaction false finishing (.ok (.ok ()))) :
      Transacts work (begun transaction :: (working ++ finishing)) (.ok value)
  | uncommitted {transaction : Transaction} {working finishing : History} {value : α}
      {error : TransactionError} (works : Goes work working (.ok value))
      (finishes : Finishes transaction false finishing (.ok (.error error))) :
      Transacts work (begun transaction :: (working ++ finishing)) (.error (.failed (.transaction error)))
  | unfinished {transaction : Transaction} {working finishing : History} {value : α} {stop : Stop}
      (works : Goes work working (.ok value)) (finishes : Finishes transaction false finishing (.error stop)) :
      Transacts work (begun transaction :: (working ++ finishing)) (.error stop)
  | rolledBack {transaction : Transaction} {working finishing : History} {error : RebuildError}
      {result : Except TransactionError Unit} (works : Goes work working (.error (.failed error)))
      (finishes : Finishes transaction true finishing (.ok result)) :
      Transacts work (begun transaction :: (working ++ finishing)) (.error (.failed error))
  | notRolledBack {transaction : Transaction} {working finishing : History} {error : RebuildError}
      {stop : Stop} (works : Goes work working (.error (.failed error)))
      (finishes : Finishes transaction true finishing (.error stop)) :
      Transacts work (begun transaction :: (working ++ finishing)) (.error stop)
  | dropped {transaction : Transaction} {working : History} {text : String}
      (works : Goes work working (.error (.panicked text))) :
      Transacts work (begun transaction :: working) (.error (.panicked text))

theorem goes_finish {transaction : Transaction} {isError : Bool}
    {outcome : Except Stop (Except TransactionError Unit)}
    (goes : Goes (finish transaction isError) history outcome) :
    Finishes transaction isError history outcome := by
  unfold finish at goes
  split at goes
  · rename_i left
    obtain ⟨rfl, rfl⟩ := goes_pure.1 goes
    exact .left left
  · rename_i ending asks
    obtain ⟨answer, rfl, rfl⟩ := goes_outside.1 goes
    exact .asked asks answer

theorem goes_inTransaction {work : Run α} {outcome : Except Stop α}
    (goes : Goes (inTransaction work) history outcome) : Transacts work history outcome := by
  rcases goes_expected goes with
    ⟨stop, first, rfl⟩ | ⟨error, first, rfl⟩ | ⟨transaction, before, rest, first, working, rfl⟩
  · obtain ⟨text, rfl, rfl⟩ := goes_outside_error.1 first
    exact .unbegun (.panicked text)
  · obtain rfl := goes_outside_ok.1 first
    exact .unbegun (.failed error)
  obtain rfl := goes_outside_ok.1 first
  obtain ⟨result, working, finishing, works, ending, rfl⟩ := goes_settle_bind.1 working
  rw [List.singleton_append]
  match result with
  | .ok value =>
    rcases goes_expected ending with
      ⟨stop, third, rfl⟩ | ⟨error, third, rfl⟩ | ⟨done, finishing, last, third, fourth, rfl⟩
    · exact .unfinished works (goes_finish third)
    · exact .uncommitted works (goes_finish third)
    · obtain ⟨rfl, rfl⟩ := goes_pure.1 fourth
      rw [List.append_nil]
      exact .committed works (goes_finish third)
  | .error (.failed error) =>
    rcases goes_bind.1 ending with ⟨stop, third, rfl⟩ | ⟨done, finishing, last, third, fourth, rfl⟩
    · exact .notRolledBack works (goes_finish third)
    · obtain ⟨rfl, rfl⟩ := goes_throw.1 fourth
      rw [List.append_nil]
      exact .rolledBack works (goes_finish third)
  | .error (.panicked text) =>
    obtain ⟨rfl, rfl⟩ := goes_throw.1 ending
    rw [List.append_nil]
    exact .dropped works

inductive Writes (plan : Plan) (asOf : Instant) (request : RequestContext) (page : Nat)
    (known : Option (List Locale)) : History → Except Stop (Nat × List Locale) → Prop where
  | unbuilt {building : History} {stop : Stop} (builds : Builds plan asOf request page known building (.error stop)) :
      Writes plan asOf request page known building (.error stop)
  | unwritten {building : History} {documents : List Document} {locales : List Locale} {error : SearchError}
      {requests : List Request} (builds : Builds plan asOf request page known building (.ok (documents, locales)))
      (nonempty : documents ≠ []) (broken : BrokenWrite documents error requests) :
      Writes plan asOf request page known (building ++ requests.map asked)
        (.error (.failed (.rebuildFailed error)))
  | written {building : History} {documents : List Document} {locales : List Locale}
      (builds : Builds plan asOf request page known building (.ok (documents, locales))) :
      Writes plan asOf request page known (building ++ (writing documents).map asked)
        (.ok (documents.length, locales))

theorem goes_writePage {plan : Plan} {asOf : Instant} {request : RequestContext} {page : Nat}
    {known : Option (List Locale)} {outcome : Except Stop (Nat × List Locale)}
    (goes : Goes (writePage plan asOf request page known) history outcome) :
    Writes plan asOf request page known history outcome := by
  rcases goes_bind.1 goes with ⟨stop, first, rfl⟩ | ⟨⟨documents, locales⟩, building, rest, first, second, rfl⟩
  · exact .unbuilt (goes_buildPage first)
  have builds := goes_buildPage first
  rcases goes_expected second with
    ⟨stop, third, rfl⟩ | ⟨error, third, rfl⟩ | ⟨written, requests, last, third, fourth, rfl⟩
  · obtain ⟨requests, value, -, -, impossible⟩ := goes_maintain third
    cases impossible
  · obtain ⟨requests, value, path, rfl, same⟩ := goes_maintain third
    cases same
    rcases Maintenance.path_writeBatch path with ⟨-, impossible⟩ | ⟨error, nonempty, broken, same⟩
    · cases impossible
    · cases same
      exact .unwritten builds nonempty broken
  · obtain ⟨requests, value, path, rfl, same⟩ := goes_maintain third
    cases same
    obtain ⟨rfl, rfl⟩ := goes_pure.1 fourth
    rw [List.append_nil]
    rcases Maintenance.path_writeBatch path with ⟨rfl, same⟩ | ⟨error, -, -, impossible⟩
    · cases same
      exact .written builds
    · cases impossible

inductive Sweeps (plan : Plan) (asOf : Instant) (request : RequestContext) (total : UInt64) :
    Nat → Option (List Locale) → Progress → History → Except Stop Progress → Prop where
  | ended {page : Nat} {known : Option (List Locale)} {progress : Progress}
      (fits : page * plan.config.pageSize.toNat < UInt64.size)
      (beyond : total.toNat ≤ page * plan.config.pageSize.toNat) :
      Sweeps plan asOf request total page known progress [] (.ok progress)
  | overflown {page : Nat} {known : Option (List Locale)} {progress : Progress}
      (overflows : UInt64.size ≤ page * plan.config.pageSize.toNat) :
      Sweeps plan asOf request total page known progress [] (.error overflow)
  | cancelled {page : Nat} {known : Option (List Locale)} {progress : Progress}
      (below : page * plan.config.pageSize.toNat < total.toNat) :
      Sweeps plan asOf request total page known progress [⟨.isCancelled, true⟩] (.error (.failed .cancelled))
  | stopped {page : Nat} {known : Option (List Locale)} {progress : Progress} {paging : History} {stop : Stop}
      (below : page * plan.config.pageSize.toNat < total.toNat)
      (transacts : Transacts (writePage plan asOf request page known) paging (.error stop)) :
      Sweeps plan asOf request total page known progress (⟨.isCancelled, false⟩ :: paging) (.error stop)
  | unheard {page : Nat} {known : Option (List Locale)} {progress : Progress} {paging : History}
      {written : Nat} {locales : List Locale} {text : String}
      (below : page * plan.config.pageSize.toNat < total.toNat)
      (transacts : Transacts (writePage plan asOf request page known) paging (.ok (written, locales))) :
      Sweeps plan asOf request total page known progress
        (⟨.isCancelled, false⟩ ::
          (paging ++ [⟨.outside (.report (progress.recordPage written)), .panicked text⟩]))
        (.error (.panicked text))
  | next {page : Nat} {known : Option (List Locale)} {progress : Progress} {paging rest : History}
      {written : Nat} {locales : List Locale} {outcome : Except Stop Progress}
      (below : page * plan.config.pageSize.toNat < total.toNat)
      (transacts : Transacts (writePage plan asOf request page known) paging (.ok (written, locales)))
      (sweeps : Sweeps plan asOf request total (page + 1) (some locales) (progress.recordPage written)
        rest outcome) :
      Sweeps plan asOf request total page known progress
        (⟨.isCancelled, false⟩ ::
          (paging ++ ⟨.outside (.report (progress.recordPage written)), .returned ()⟩ :: rest)) outcome

theorem goes_checkCancelled {outcome : Except Stop Unit} (goes : Goes checkCancelled history outcome) :
    (history = [⟨.isCancelled, false⟩] ∧ outcome = .ok ()) ∨
      (history = [⟨.isCancelled, true⟩] ∧ outcome = .error (.failed .cancelled)) := by
  obtain ⟨isCancelled, rest, rfl, last⟩ := goes_ask_bind.1 goes
  cases (isCancelled : Bool) with
  | false =>
    obtain ⟨rfl, rfl⟩ := goes_pure.1 last
    exact .inl ⟨rfl, rfl⟩
  | true =>
    obtain ⟨rfl, rfl⟩ := goes_throw.1 last
    exact .inr ⟨rfl, rfl⟩

theorem goes_checkCancelled_bind {next : Unit → Run α} {outcome : Except Stop α}
    (goes : Goes (checkCancelled >>= next) history outcome) :
    (history = [⟨.isCancelled, true⟩] ∧ outcome = .error (.failed .cancelled)) ∨
      ∃ rest, history = ⟨.isCancelled, false⟩ :: rest ∧ Goes (next ()) rest outcome := by
  rcases goes_bind.1 goes with ⟨stop, first, rfl⟩ | ⟨value, before, after, first, second, rfl⟩
  · rcases goes_checkCancelled first with ⟨-, impossible⟩ | ⟨rfl, same⟩
    · cases impossible
    · cases same
      exact .inl ⟨rfl, rfl⟩
  · rcases goes_checkCancelled first with ⟨rfl, -⟩ | ⟨-, impossible⟩
    · exact .inr ⟨after, rfl, second⟩
    · cases impossible

/-- With more fuel than there are pages left the sweep never runs dry. -/
theorem goes_sweep {plan : Plan} {asOf : Instant} {request : RequestContext} {total : UInt64} (fuel : Nat)
    {page : Nat} {known : Option (List Locale)} {progress : Progress} {outcome : Except Stop Progress}
    (reached : page ≤ total.toNat) (enough : total.toNat < page + fuel)
    (goes : Goes (sweep plan asOf request total fuel page known progress) history outcome) :
    Sweeps plan asOf request total page known progress history outcome := by
  induction fuel generalizing page known progress history with
  | zero => omega
  | succ fuel ih =>
    unfold sweep at goes
    dsimp only at goes
    split at goes
    · rename_i overflows
      obtain ⟨rfl, rfl⟩ := goes_throw.1 goes
      exact .overflown overflows
    · rename_i fits
      split at goes
      · rename_i below
        have positive : 1 ≤ plan.config.pageSize.toNat := by
          have nonzero := plan.pageSize_ne_zero
          rw [Ne, ← UInt64.toNat_inj] at nonzero
          exact Nat.pos_of_ne_zero nonzero
        -- Pages hold at least one item, so there are no more of them below the total than it counts.
        have further : page + 1 ≤ total.toNat := by
          have := Nat.le_mul_of_pos_right page positive
          omega
        rcases goes_checkCancelled_bind goes with ⟨rfl, rfl⟩ | ⟨rest, rfl, paging⟩
        · exact .cancelled below
        rcases goes_bind.1 paging with
          ⟨stop, second, rfl⟩ | ⟨⟨written, locales⟩, paging, rest, second, reporting, rfl⟩
        · exact .stopped below (goes_inTransaction second)
        rcases goes_bind.1 reporting with ⟨stop, third, rfl⟩ | ⟨reply, reporting, rest, third, sweeping, rfl⟩
        · obtain ⟨text, rfl, rfl⟩ := goes_outside_error.1 third
          exact .unheard below (goes_inTransaction second)
        · obtain rfl := goes_outside_ok.1 third
          exact .next below (goes_inTransaction second) (ih further (by omega) sweeping)
      · rename_i beyond
        obtain ⟨rfl, rfl⟩ := goes_pure.1 goes
        exact .ended (by omega) (by omega)

def countWork (asOf : Instant) : Run UInt64 := do expect .catalog (← outside (.count asOf))

def cleared (isShared : Bool) : History := ⟨.isShared, isShared⟩ :: (clearing.map asked ++ [⟨.enter .paging, ()⟩])

def planned (plan : Plan) (asOf : Instant) (total : UInt64) : Progress :=
  (Progress.start asOf).withTotals total (pageCount total plan.config.pageSize)

/-- What the phases have gone through when every page has been written. -/
inductive Fills (plan : Plan) (asOf : Instant) (request : RequestContext) (isShared : Bool) :
    History → Progress → Prop where
  | filled {counting sweeping : History} {total : UInt64} {progress : Progress}
      (counts : Transacts (countWork asOf) counting (.ok total))
      (sweeps : Sweeps plan asOf request total 0 none (planned plan asOf total) sweeping (.ok progress)) :
      Fills plan asOf request isShared (cleared isShared ++ (counting ++ sweeping)) progress

/-- What goes on between the last page and the swap when nothing hinders it. -/
def approved : History :=
  [⟨.enter .finalizing, ()⟩, asked (granted .optimize), ⟨.isCancelled, false⟩, ⟨.enter .swapping, ()⟩]

inductive Phases (plan : Plan) (asOf : Instant) (request : RequestContext) : History → Except Stop Report → Prop where
  | uncleared {isShared : Bool} {error : SearchError} {requests : List Request}
      (broken : BrokenClear error requests) :
      Phases plan asOf request (⟨.isShared, isShared⟩ :: requests.map asked)
        (.error (.failed (.deleteFailed error)))
  | uncounted {isShared : Bool} {counting : History} {stop : Stop}
      (counts : Transacts (countWork asOf) counting (.error stop)) :
      Phases plan asOf request (cleared isShared ++ counting) (.error stop)
  | unswept {isShared : Bool} {counting sweeping : History} {total : UInt64} {stop : Stop}
      (counts : Transacts (countWork asOf) counting (.ok total))
      (sweeps : Sweeps plan asOf request total 0 none (planned plan asOf total) sweeping (.error stop)) :
      Phases plan asOf request (cleared isShared ++ (counting ++ sweeping)) (.error stop)
  | uncompacted {isShared : Bool} {filling : History} {progress : Progress} {error : SearchError}
      (fills : Fills plan asOf request isShared filling progress) :
      Phases plan asOf request (filling ++ [⟨.enter .finalizing, ()⟩, asked (refused .optimize error)])
        (.error (.failed (.rebuildFailed error)))
  | cancelled {isShared : Bool} {filling : History} {progress : Progress}
      (fills : Fills plan asOf request isShared filling progress) :
      Phases plan asOf request
        (filling ++ [⟨.enter .finalizing, ()⟩, asked (granted .optimize), ⟨.isCancelled, true⟩])
        (.error (.failed .cancelled))
  | unswapped {isShared : Bool} {filling : History} {progress : Progress} {error : SearchError}
      (fills : Fills plan asOf request isShared filling progress) :
      Phases plan asOf request (filling ++ (approved ++ [⟨.swap, .error error⟩]))
        (.error (.failed (.rebuildFailed error)))
  | uncleaned {filling : History} {progress : Progress} {swapped : Bool} {error : SearchError}
      {requests : List Request} (fills : Fills plan asOf request false filling progress)
      (broken : BrokenClear error requests) :
      Phases plan asOf request
        (filling ++ (approved ++ ⟨.swap, .ok swapped⟩ :: ⟨.enter .cleaning, ()⟩ :: requests.map asked))
        (.error (.failed (.deleteFailed error)))
  | finished {isShared : Bool} {filling : History} {progress : Progress} {swapped : Bool}
      (fills : Fills plan asOf request isShared filling progress) :
      Phases plan asOf request
        (filling ++ (approved ++ ⟨.swap, .ok swapped⟩ :: ⟨.enter .cleaning, ()⟩ ::
          if isShared then [] else clearing.map asked)) (.ok ⟨progress, swapped⟩)

theorem goes_request {operation : Operation} {wrap : SearchError → RebuildError} {next : Unit → Run α}
    {outcome : Except Stop α}
    (goes : Goes (maintain (.request operation) >>= fun result => expect wrap result >>= next) history outcome) :
    (∃ error, history = [asked (refused operation error)] ∧ outcome = .error (.failed (wrap error))) ∨
      ∃ rest, history = asked (granted operation) :: rest ∧ Goes (next ()) rest outcome := by
  rcases goes_expected goes with ⟨stop, first, rfl⟩ | ⟨error, first, rfl⟩ | ⟨value, before, rest, first, second, rfl⟩
  · obtain ⟨requests, value, -, -, impossible⟩ := goes_maintain first
    cases impossible
  · obtain ⟨requests, value, path, rfl, same⟩ := goes_maintain first
    cases same
    obtain rfl := Maintenance.path_request.1 path
    exact .inl ⟨error, rfl, rfl⟩
  · obtain ⟨requests, value, path, rfl, same⟩ := goes_maintain first
    cases same
    obtain rfl := Maintenance.path_request.1 path
    exact .inr ⟨rest, rfl, second⟩

theorem goes_clear_bind {next : Unit → Run α} {outcome : Except Stop α}
    (goes : Goes (clear >>= next) history outcome) :
    (∃ error requests, BrokenClear error requests ∧ history = requests.map asked ∧
      outcome = .error (.failed (.deleteFailed error))) ∨
    ∃ rest, history = clearing.map asked ++ rest ∧ Goes (next ()) rest outcome := by
  rcases goes_bind.1 goes with ⟨stop, first, rfl⟩ | ⟨value, before, rest, first, second, rfl⟩
  · rcases goes_clear first with ⟨-, impossible⟩ | ⟨error, requests, broken, rfl, same⟩
    · cases impossible
    · cases same
      exact .inl ⟨error, requests, broken, rfl, rfl⟩
  · rcases goes_clear first with ⟨rfl, -⟩ | ⟨error, requests, -, -, impossible⟩
    · exact .inr ⟨rest, rfl, second⟩
    · cases impossible

theorem goes_phases {plan : Plan} {asOf : Instant} {request : RequestContext} {outcome : Except Stop Report}
    (goes : Goes (phases plan asOf request) history outcome) : Phases plan asOf request history outcome := by
  -- The steps in their order, each of which may be the last one.
  obtain ⟨isShared, rest, rfl, opening⟩ := goes_ask_bind.1 goes
  rcases goes_clear_bind opening with ⟨error, requests, broken, rfl, rfl⟩ | ⟨rest, rfl, entering⟩
  · exact .uncleared broken
  obtain ⟨-, rest, rfl, opened⟩ := goes_ask_bind.1 entering
  rw [List.append_cons, ← List.cons_append]
  rcases goes_bind.1 opened with ⟨stop, first, rfl⟩ | ⟨total, counting, rest, first, counted, rfl⟩
  · exact .uncounted (goes_inTransaction first)
  have counts : Transacts (countWork asOf) counting (.ok total) := goes_inTransaction first
  rcases goes_bind.1 counted with ⟨stop, second, rfl⟩ | ⟨progress, sweeping, rest, second, finalizing, rfl⟩
  · exact .unswept counts (goes_sweep _ (Nat.zero_le _) (by omega) second)
  have sweeps := goes_sweep _ (Nat.zero_le _) (by omega) second
  have fills : Fills plan asOf request isShared (cleared isShared ++ (counting ++ sweeping)) progress :=
    .filled counts sweeps
  rw [← List.append_assoc counting, ← List.append_assoc]
  obtain ⟨-, rest, rfl, compacting⟩ := goes_ask_bind.1 finalizing
  rcases goes_request compacting with ⟨error, rfl, rfl⟩ | ⟨rest, rfl, checking⟩
  · exact .uncompacted fills
  rcases goes_checkCancelled_bind checking with ⟨rfl, rfl⟩ | ⟨rest, rfl, entering⟩
  · exact .cancelled fills
  obtain ⟨-, rest, rfl, swapping⟩ := goes_ask_bind.1 entering
  rcases goes_expected swapping with
    ⟨stop, third, rfl⟩ | ⟨error, third, rfl⟩ | ⟨swapped, before, rest, third, cleaning, rfl⟩
  · obtain ⟨reply, -, impossible⟩ := goes_ask.1 third
    cases impossible
  · obtain ⟨reply, rfl, same⟩ := goes_ask.1 third
    cases same
    exact .unswapped fills
  obtain ⟨reply, rfl, same⟩ := goes_ask.1 third
  cases same
  obtain ⟨-, rest, rfl, cleaning⟩ := goes_ask_bind.1 cleaning
  match isShared with
  | true =>
    obtain ⟨rfl, rfl⟩ := goes_pure.1 cleaning
    exact .finished fills
  | false =>
    rcases goes_clear_bind cleaning with ⟨error, requests, broken, rfl, rfl⟩ | ⟨rest, rfl, last⟩
    · exact .uncleaned fills broken
    · obtain ⟨rfl, rfl⟩ := goes_pure.1 last
      rw [List.append_nil]
      exact .finished fills

def entered (request : RequestContext) : History :=
  [⟨.acquire, true⟩, ⟨.enter .preparing, ()⟩, ⟨.capture, request⟩]

inductive Rebuilds (plan : Plan) (asOf : Instant) : History → Except Stop Report → Prop where
  | rejected : Rebuilds plan asOf [⟨.acquire, false⟩] (.error (.failed .alreadyRunning))
  | panicked {request : RequestContext} {middle : History} {text : String}
      (phases : Phases plan asOf request middle (.error (.panicked text))) :
      Rebuilds plan asOf (entered request ++ (middle ++ [⟨.restore request, ()⟩, ⟨.release, ()⟩]))
        (.error (.panicked text))
  | failed {request : RequestContext} {middle : History} {error : RebuildError}
      (phases : Phases plan asOf request middle (.error (.failed error))) :
      Rebuilds plan asOf
        (entered request ++ (middle ++ [⟨.restore request, ()⟩, ⟨.enter .failed, ()⟩, ⟨.release, ()⟩]))
        (.error (.failed error))
  | completed {request : RequestContext} {middle : History} {report : Report} (answer : Answer Unit)
      (phases : Phases plan asOf request middle (.ok report)) :
      Rebuilds plan asOf
        (entered request ++ (middle ++ [⟨.restore request, ()⟩, ⟨.enter .done, ()⟩,
          ⟨.outside (.report report.progress.complete), answer⟩, ⟨.release, ()⟩]))
        (answer.outcome.map fun _ => { report with progress := report.progress.complete })

theorem goes_guarded {plan : Plan} {asOf : Instant} {outcome : Except Stop Report}
    (goes : Goes (guarded plan asOf) history outcome) :
    ∃ request middle, Phases plan asOf request middle outcome ∧
      history = ⟨.enter .preparing, ()⟩ :: ⟨.capture, request⟩ :: (middle ++ [⟨.restore request, ()⟩]) := by
  obtain ⟨⟨⟩, rest, rfl, capturing⟩ := goes_ask_bind.1 goes
  obtain ⟨request, rest, rfl, settling⟩ := goes_ask_bind.1 capturing
  obtain ⟨result, middle, rest, first, restoring, rfl⟩ := goes_settle_bind.1 settling
  obtain ⟨⟨⟩, rest, rfl, last⟩ := goes_ask_bind.1 restoring
  obtain ⟨rfl, rfl⟩ := goes_resume.1 last
  exact ⟨request, middle, goes_phases first, rfl⟩

theorem goes_rebuild {plan : Plan} {asOf : Instant} {outcome : Except Stop Report}
    (goes : Goes (rebuild plan asOf) history outcome) : Rebuilds plan asOf history outcome := by
  obtain ⟨acquired, rest, rfl, working⟩ := goes_ask_bind.1 goes
  cases (acquired : Bool) with
  | false =>
    obtain ⟨rfl, rfl⟩ := goes_throw.1 working
    exact .rejected
  | true =>
    -- The mark is released whatever the phases have come to; only then the rebuild ends as they have ended.
    obtain ⟨result, concluding, rest, first, releasing, rfl⟩ := goes_settle_bind.1 working
    obtain ⟨⟨⟩, rest, rfl, last⟩ := goes_ask_bind.1 releasing
    obtain ⟨rfl, rfl⟩ := goes_resume.1 last
    obtain ⟨guardedOutcome, guarding, rest, second, entering, rfl⟩ := goes_settle_bind.1 first
    obtain ⟨request, middle, phases, rfl⟩ := goes_guarded second
    match guardedOutcome with
    | .error (.panicked text) =>
      obtain ⟨rfl, rfl⟩ := goes_throw.1 entering
      simp only [List.cons_append, List.append_assoc, List.nil_append]
      exact .panicked phases
    | .error (.failed error) =>
      obtain ⟨⟨⟩, rest, rfl, last⟩ := goes_ask_bind.1 entering
      obtain ⟨rfl, rfl⟩ := goes_throw.1 last
      simp only [List.cons_append, List.append_assoc, List.nil_append]
      exact .failed phases
    | .ok report =>
      obtain ⟨⟨⟩, rest, rfl, reporting⟩ := goes_ask_bind.1 entering
      -- Success has been entered by now, and a panic of the party that is told of it does not take it back.
      rcases goes_bind.1 reporting with ⟨stop, third, rfl⟩ | ⟨⟨⟩, before, rest, third, last, rfl⟩
      · obtain ⟨text, rfl, rfl⟩ := goes_outside_error.1 third
        simp only [List.cons_append, List.append_assoc, List.nil_append]
        exact .completed (.panicked text) phases
      · obtain rfl := goes_outside_ok.1 third
        obtain ⟨rfl, rfl⟩ := goes_pure.1 last
        simp only [List.cons_append, List.append_assoc, List.nil_append]
        exact .completed (.returned ()) phases

end CatalogIndex.Run
