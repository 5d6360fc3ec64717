import CatalogIndex.Dialogue
import CatalogIndex.Document
import CatalogIndex.Error
/-!
What a generation of the index can be asked to do. A generation is one complete copy of the index: changes
wait until they are committed, and readers see what has been committed. Clearing a generation and writing a
batch into it are dialogues with whatever stands behind the operations.
-/
namespace CatalogIndex

/-- The delete query that matches every document. -/
def allDocuments : String := "*:*"

inductive Operation where
  /-- Make documents wait, each to replace the one of its id. -/
  | add (documents : List Document)
  | commit
  | rollback
  | optimize
  /-- Make the removal of all documents that match a query wait. -/
  | delete (query : String)
deriving DecidableEq

namespace Operation

abbrev Reply (_ : Operation) : Type := Except SearchError Unit

def label : Operation → String
  | add _ => "add"
  | commit => "commit"
  | rollback => "rollback"
  | optimize => "optimize"
  | delete query => "delete_by_query(" ++ query ++ ")"

end Operation

abbrev Maintenance := Dialogue Operation.Reply

namespace Maintenance

def request (operation : Operation) : Maintenance (Except SearchError Unit) :=
  .ask operation fun reply => .done reply

def andThen (first second : Operation) : Maintenance (Except SearchError Unit) :=
  .ask first fun (reply : Except SearchError Unit) =>
    match reply with
    | .ok () => request second
    | .error error => .done (.error error)

def clear : Maintenance (Except SearchError Unit) := andThen (.delete allDocuments) .commit

/-- Adds a batch and commits it, and drops what waits when either fails. An empty batch asks for nothing. -/
def writeBatch (documents : List Document) : Maintenance (Except SearchError Nat) :=
  if documents.isEmpty then .done (.ok 0)
  else
    (andThen (.add documents) .commit).bind fun outcome =>
      match outcome with
      | .ok () => .done (.ok documents.length)
      | .error error => .ask .rollback fun _ => .done (.error error)

end Maintenance

class Engine (γ : Type) where
  perform : Dialogue.Responder Operation.Reply γ
  count : γ → Nat
  find : γ → String → Except SearchError (Option Document)

end CatalogIndex
