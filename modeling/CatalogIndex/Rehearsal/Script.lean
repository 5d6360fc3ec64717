import CatalogIndex.Catalog
import CatalogIndex.Rebuild.World
import CatalogIndex.Rehearsal.Handler
import CatalogIndex.Rehearsal.Recorder
/-!
The parties around a rehearsed rebuild: an in-memory catalog, fixed descriptors and locales, scripted handlers
and a recording transaction manager, each of which logs its calls and fails on demand.
-/
namespace CatalogIndex

structure CatalogFaults where
  /-- Whether a count starts another rebuild first. -/
  reenters : Bool
  failCount : Option CatalogError
  /-- The total to claim in place of the true one. -/
  count : Option UInt64
  failPage : Option UInt64
  pageError : CatalogError

structure DescriptorFaults where
  setContext : Option RequestContext
  panicOn : Option Nat
  failOn : Option Nat
  error : CatalogError

structure Audience where
  records : Bool
  /-- The number of pages from which on the rebuild is cancelled. -/
  cancelAt : Option Nat

structure Script where
  catalog : Catalog
  descriptors : List Descriptor
  locales : List Locale
  company : Company
  catalogFaults : CatalogFaults
  descriptorFaults : DescriptorFaults
  localesError : Option CatalogError
  audience : Audience
  recorder : Recorder
  descriptorCalls : Nat
  calls : List String
  snapshots : List Progress
  nested : List (Except Stop Report)

namespace Script

def log (call : String) (script : Script) : Script := { script with calls := script.calls ++ [call] }

def count (asOf : Instant) (script : Script) : Except CatalogError UInt64 :=
  match script.catalogFaults.failCount with
  | some error => .error error
  | none => .ok (script.catalogFaults.count.getD (script.catalog.countActive asOf))

def page (number size : UInt64) (asOf : Instant) (script : Script) : Except CatalogError (List Item) :=
  if script.catalogFaults.failPage = some number then .error script.catalogFaults.pageError
  else .ok (script.catalog.pageActive number size asOf)

def pageCall (number size : UInt64) : String :=
  "page(" ++ Numeral.ofNat number.toNat ++ "," ++ Numeral.ofNat size.toNat ++ ")"

def describe (script : Script) : Answer (Except CatalogError (List Descriptor)) :=
  if script.descriptorFaults.panicOn = some script.descriptorCalls then .panicked "field registry panic"
  else if script.descriptorFaults.failOn = some script.descriptorCalls then
    .returned (.error script.descriptorFaults.error)
  else .returned (.ok script.descriptors)

def observe (progress : Progress) (script : Script) : Script :=
  if script.audience.records then { script with snapshots := script.snapshots ++ [progress] } else script

def cancelsAt (progress : Progress) (script : Script) : Bool :=
  script.audience.cancelAt.any fun pages => decide (pages ≤ progress.pages)

def answer : (question : Outside) → Ambience Script →
    Dialogue Attempt.Reply (Answer question.Reply × Ambience Script)
  | .begin definition, ambience =>
    let (reply, recorder) := ambience.own.recorder.begin definition
    .done (.returned reply, { ambience with own := { ambience.own with recorder } })
  | .finish transaction ending, ambience =>
    let (reply, recorder) := ambience.own.recorder.finish transaction ending
    .done (.returned reply, { ambience with own := { ambience.own with recorder } })
  | .count asOf, ambience =>
    let script := ambience.own.log "count"
    if script.catalogFaults.reenters then
      .ask ⟨asOf⟩ fun outcome =>
        .done (.returned (script.count asOf),
          { ambience with own := { script with nested := script.nested ++ [outcome] } })
    else .done (.returned (script.count asOf), { ambience with own := script })
  | .page number size asOf, ambience =>
    let script := ambience.own.log (pageCall number size)
    .done (.returned (script.page number size asOf), { ambience with own := script })
  | .descriptors, ambience =>
    let script := ambience.own.log "fields"
    let script := { script with descriptorCalls := script.descriptorCalls + 1 }
    .done (script.describe,
      { ambience with own := script, context := script.descriptorFaults.setContext.getD ambience.context })
  | .locales, ambience =>
    let script := ambience.own.log "locales"
    .done (.returned (match script.localesError with
      | some error => .error error
      | none => .ok script.locales), { ambience with own := script })
  | .handler question, ambience =>
    let (reply, calls) := ambience.own.company.respond question ambience.own.calls
    .done (.returned reply, { ambience with own := { ambience.own with calls } })
  | .report progress, ambience =>
    .done (.returned (), { ambience with
      own := ambience.own.observe progress
      cancelled := ambience.own.cancelsAt progress })

/-- The parties of a script, which do nothing while a generation is at work. -/
def surroundings : Surroundings Script := ⟨answer, fun _ ambience => ambience⟩

end Script
end CatalogIndex
