import CatalogIndex.Error
import CatalogIndex.Transaction
/-!
A transaction manager for rehearsals: it records what is begun, committed and rolled back, and fails on
demand. What fails leaves no record.
-/
namespace CatalogIndex

/-- Which transactions fail to begin, commit or roll back, by the number of their begin, counted from one. -/
structure TransactionFaults where
  failBegin : List Nat
  failCommit : List Nat
  failRollback : List Nat
deriving DecidableEq, Repr

def TransactionFaults.none : TransactionFaults := ⟨[], [], []⟩

inductive TransactionEvent where
  | begun (name : String)
  | committed (name : String)
  | rolledBack (name : String)
deriving DecidableEq, Repr

namespace TransactionEvent

def label : TransactionEvent → String
  | begun name => "begin:" ++ name
  | committed name => "commit:" ++ name
  | rolledBack name => "rollback:" ++ name

def isCommit : TransactionEvent → Bool
  | committed _ => true
  | _ => false

end TransactionEvent

structure Recorder where
  faults : TransactionFaults
  begins : Nat
  events : List TransactionEvent
  definitions : List TransactionDefinition
  rollbackOnly : Bool

namespace Recorder

def new (faults : TransactionFaults) : Recorder := ⟨faults, 0, [], [], false⟩

def record (event : TransactionEvent) (recorder : Recorder) : Recorder :=
  { recorder with events := recorder.events ++ [event] }

def begin (definition : TransactionDefinition) (recorder : Recorder) :
    Except TransactionError Transaction × Recorder :=
  let number := recorder.begins + 1
  let recorder := { recorder with begins := number }
  if recorder.faults.failBegin.contains number then (.error (.begin "no connection"), recorder)
  else
    (.ok ⟨number, definition.name, recorder.rollbackOnly⟩,
      { recorder.record (.begun definition.name) with definitions := recorder.definitions ++ [definition] })

def finish (transaction : Transaction) (ending : Ending) (recorder : Recorder) :
    Except TransactionError Unit × Recorder :=
  match ending with
  | .commit =>
    if recorder.faults.failCommit.contains transaction.key then (.error (.commit "commit log full"), recorder)
    else (.ok (), recorder.record (.committed transaction.name))
  | .rollback =>
    if recorder.faults.failRollback.contains transaction.key then
      (.error (.rollback "rollback segment gone"), recorder)
    else (.ok (), recorder.record (.rolledBack transaction.name))

def finalize (transaction : Transaction) (isError : Bool) (recorder : Recorder) :
    Except TransactionError Unit × Recorder :=
  match transaction.ending isError with
  | some ending => recorder.finish transaction ending
  | none => (.ok (), recorder)

/-- The transaction of a manager for stores without transactions; nothing is recorded of it. -/
def untracked (definition : TransactionDefinition) : Transaction := ⟨0, definition.name, false⟩

def commits (recorder : Recorder) : Nat := recorder.events.countP (·.isCommit)

end Recorder
end CatalogIndex
