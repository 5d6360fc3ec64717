import CatalogIndex.Generation.Engine
import CatalogIndex.Index.Builder
import CatalogIndex.Rebuild.Phase
import CatalogIndex.Rebuild.Progress
import CatalogIndex.Transaction
/-!
Everything that a rebuild asks for, and what it is told. Parties from outside may panic instead of replying;
the site of the rebuild, that is its state and its generations, always replies.
-/
namespace CatalogIndex

inductive Outside where
  | begin (definition : TransactionDefinition)
  | finish (transaction : Transaction) (ending : Ending)
  | count (asOf : Instant)
  | page (number size : UInt64) (asOf : Instant)
  | descriptors
  | locales
  | handler (question : HandlerQuestion)
  | report (progress : Progress)

inductive Answer (α : Type) where
  | returned (value : α)
  | panicked (text : String)

namespace Outside

def Reply : Outside → Type
  | begin _ => Except TransactionError Transaction
  | finish .. => Except TransactionError Unit
  | count _ => Except CatalogError UInt64
  | page .. => Except CatalogError (List Item)
  | descriptors => Except CatalogError (List Descriptor)
  | locales => Except CatalogError (List Locale)
  | handler question => question.Reply
  | report _ => Unit

end Outside

inductive Call where
  /-- Whether no other rebuild runs; if so, this one does from here on. -/
  | acquire
  | release
  | enter (phase : Phase)
  | isShared
  | capture
  | restore (context : RequestContext)
  /-- A request to the generation that rebuilds write. -/
  | perform (operation : Operation)
  | swap
  | isCancelled
  | outside (question : Outside)

namespace Call

def Reply : Call → Type
  | acquire => Bool
  | release => Unit
  | enter _ => Unit
  | isShared => Bool
  | capture => RequestContext
  | restore _ => Unit
  | perform _ => Except SearchError Unit
  | swap => Except SearchError Bool
  | isCancelled => Bool
  | outside question => Answer question.Reply

end Call

inductive Stop where
  | failed (error : RebuildError)
  | panicked (text : String)
deriving DecidableEq, Repr

structure Report where
  progress : Progress
  /-- Whether another generation serves queries now. -/
  swapped : Bool
deriving DecidableEq, Repr

end CatalogIndex
