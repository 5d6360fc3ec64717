import CatalogIndex.Catalog
import CatalogIndex.Rebuild.Call
import CatalogIndex.Rebuild.Config
/-!
The course of a rebuild. The generation to write is cleared, filled page by page, compacted and put into
service; then the other one is cleared. Each page is read inside a transaction of its own. The first failure
ends the course, and on every way out the ambient context is put back and the running mark is taken away.
-/
namespace CatalogIndex

/-- A part of the course, which may end the whole. -/
abbrev Run := ExceptT Stop (Dialogue Call.Reply)

namespace Run

variable {α β ε : Type}

def ask (call : Call) : Run call.Reply := ExceptT.lift (Dialogue.question call)

/-- Asks a party from outside; its panic ends the course. -/
def outside (question : Outside) : Run question.Reply := do
  match ← ask (.outside question) with
  | .returned value => return value
  | .panicked text => throw (.panicked text)

def expect (wrap : ε → RebuildError) : Except ε α → Run α
  | .ok value => pure value
  | .error error => throw (.failed (wrap error))

/-- Runs a part to its end, whatever that is, and goes on. -/
def settle (part : Run α) : Run (Except Stop α) := ExceptT.lift part.run

def resume : Except Stop α → Run α
  | .ok value => pure value
  | .error stop => throw stop

def checkCancelled : Run Unit := do
  let isCancelled : Bool ← ask .isCancelled
  if isCancelled then throw (.failed .cancelled)

def consult (consultation : Consultation α) : Run α :=
  consultation.runIn fun question => outside (.handler question)

def maintain (maintenance : Maintenance α) : Run α := maintenance.runIn fun operation => ask (.perform operation)

def transactionName : String := "rebuildIndex"

/-- Ends a transaction, unless it is rollback-only. -/
def finish (transaction : Transaction) (isError : Bool) : Run (Except TransactionError Unit) :=
  match transaction.ending isError with
  | none => pure (.ok ())
  | some ending => outside (.finish transaction ending)

/-- Works inside a transaction. Failing work is rolled back, and a failure of that does not count. -/
def inTransaction (work : Run α) : Run α := do
  let transaction ← expect .transaction (← outside (.begin (.forReading transactionName)))
  match ← settle work with
  | .ok value =>
    expect .transaction (← finish transaction false)
    return value
  | .error (.failed error) =>
    let _ ← finish transaction true
    throw (.failed error)
  | .error (.panicked text) => throw (.panicked text)

def clear : Run Unit := do expect .deleteFailed (← maintain .clear)

def localesOnce : Option (List Locale) → Run (List Locale)
  | some locales => pure locales
  | none => do expect .catalog (← outside .locales)

def buildPage (plan : Plan) (asOf : Instant) (request : RequestContext) (page : Nat)
    (known : Option (List Locale)) : Run (List Document × List Locale) := do
  let items ← expect .catalog (← outside (.page (UInt64.ofNat page) plan.config.pageSize asOf))
  let descriptors ← expect .catalog (← outside .descriptors)
  let locales ← localesOnce known
  let documents ← expect .extension (← consult (plan.builder.buildAll items descriptors locales request))
  return (documents, locales)

def writePage (plan : Plan) (asOf : Instant) (request : RequestContext) (page : Nat)
    (known : Option (List Locale)) : Run (Nat × List Locale) := do
  let (documents, locales) ← buildPage plan asOf request page known
  let written ← expect .rebuildFailed (← maintain (.writeBatch documents))
  return (written, locales)

def overflow : Stop := .panicked "attempt to multiply with overflow"

/-- Visits the pages from a given one on while their first item lies below the total. The product that tells
so has to fit a 64-bit word. More pages than items are never visited, so `fuel` above the total is enough. -/
def sweep (plan : Plan) (asOf : Instant) (request : RequestContext) (total : UInt64) (fuel page : Nat)
    (known : Option (List Locale)) (progress : Progress) : Run Progress :=
  match fuel with
  | 0 => pure progress
  | fuel + 1 =>
    let first := page * plan.config.pageSize.toNat
    if UInt64.size ≤ first then throw overflow
    else if first < total.toNat then do
      checkCancelled
      let (written, locales) ← inTransaction (writePage plan asOf request page known)
      let progress := progress.recordPage written
      outside (.report progress)
      sweep plan asOf request total fuel (page + 1) (some locales) progress
    else pure progress

def phases (plan : Plan) (asOf : Instant) (request : RequestContext) : Run Report := do
  let isShared ← ask .isShared
  clear
  ask (.enter .paging)
  let total ← inTransaction do expect .catalog (← outside (.count asOf))
  let progress := (Progress.start asOf).withTotals total (pageCount total plan.config.pageSize)
  let progress ← sweep plan asOf request total (total.toNat + 1) 0 none progress
  ask (.enter .finalizing)
  expect .rebuildFailed (← maintain (.request .optimize))
  checkCancelled
  ask (.enter .swapping)
  let swapped ← expect .rebuildFailed (← ask .swap)
  ask (.enter .cleaning)
  if !isShared then clear
  return ⟨progress, swapped⟩

def guarded (plan : Plan) (asOf : Instant) : Run Report := do
  ask (.enter .preparing)
  let request ← ask .capture
  let outcome ← settle (phases plan asOf request)
  ask (.restore request)
  resume outcome

def concluded (plan : Plan) (asOf : Instant) : Run Report := do
  match ← settle (guarded plan asOf) with
  | .ok report =>
    ask (.enter .done)
    let progress := report.progress.complete
    outside (.report progress)
    return { report with progress }
  | .error (.failed error) =>
    ask (.enter .failed)
    throw (.failed error)
  | .error (.panicked text) => throw (.panicked text)

def rebuild (plan : Plan) (asOf : Instant) : Run Report := do
  let acquired : Bool ← ask .acquire
  if acquired then
    let outcome ← settle (concluded plan asOf)
    ask .release
    resume outcome
  else throw (.failed .alreadyRunning)

end Run
end CatalogIndex
