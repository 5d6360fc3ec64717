/-!
Units of work around catalog reads. Each ends by a commit or a rollback, unless it is marked rollback-only:
then it is left to its owner.
-/
namespace CatalogIndex

inductive Propagation where
  | required
  | requiresNew
  | supports
deriving DecidableEq, Repr

structure TransactionDefinition where
  name : String
  readOnly : Bool
  propagation : Propagation
deriving DecidableEq, Repr

def TransactionDefinition.forReading (name : String) : TransactionDefinition := ⟨name, true, .required⟩

structure Transaction where
  key : Nat
  name : String
  rollbackOnly : Bool
deriving DecidableEq, Repr

inductive Ending where
  | commit
  | rollback
deriving DecidableEq, Repr

/-- What to ask for when the work in a transaction has succeeded or failed; nothing if it is rollback-only. -/
def Transaction.ending (transaction : Transaction) (isError : Bool) : Option Ending :=
  if transaction.rollbackOnly then none else some (if isError then .rollback else .commit)

end CatalogIndex
