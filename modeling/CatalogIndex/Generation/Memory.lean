import CatalogIndex.Generation.Engine
import CatalogIndex.Text.Blank
import CatalogIndex.Text.Cut
/-!
A generation kept in memory: the committed documents by id, and the changes that wait, oldest first. A commit
applies the changes in the order in which they were asked for.
-/
namespace CatalogIndex

inductive Change where
  | add (document : Document)
  | clear
  /-- Remove the documents in which some value of the field has the text. -/
  | remove (field text : String)
deriving DecidableEq

namespace Change

def shows (field text : String) (document : Document) : Bool :=
  (document.values field).any fun value => value.display == text

/-- The change that a delete query asks for: everything, or one field and the text of a value. -/
def ofQuery? (query : String) : Option Change :=
  if Blank.trimText query = allDocuments then some clear
  else
    match Cut.atFirst ':' query.toList with
    | some (field, text) =>
      if field = [] ∨ text = [] then none else some (remove (String.ofList field) (String.ofList text))
    | none => none

def apply (committed : Table Document) : Change → Table Document
  | add document =>
    match document.id? with
    | some id => committed.insert id document
    | none => committed
  | clear => .empty
  | remove field text => committed.filter fun _ document => !shows field text document

end Change

structure Memory where
  committed : Table Document
  pending : List Change
  commits : Nat
  optimizes : Nat

namespace Memory

def empty : Memory := ⟨.empty, [], 0, 0⟩

instance : Inhabited Memory := ⟨empty⟩

/-- The documents before the first one without an id, and whether there is such a one. -/
def acceptable (documents : List Document) : List Document × Bool :=
  let accepted := documents.takeWhile fun document => document.id?.isSome
  (accepted, accepted.length < documents.length)

def missingId : SearchError := .invalidDocument ("missing " ++ Document.idField ++ " field")

def settled (memory : Memory) : Table Document := memory.pending.foldl Change.apply memory.committed

def perform (operation : Operation) (memory : Memory) : Except SearchError Unit × Memory :=
  match operation with
  | .add documents =>
    let (accepted, refused) := acceptable documents
    let memory := { memory with pending := memory.pending ++ accepted.map Change.add }
    (if refused then .error missingId else .ok (), memory)
  | .commit => (.ok (), { memory with committed := memory.settled, pending := [], commits := memory.commits + 1 })
  | .rollback => (.ok (), { memory with pending := [] })
  | .optimize => (.ok (), { memory with optimizes := memory.optimizes + 1 })
  | .delete query =>
    match Change.ofQuery? query with
    | some change => (.ok (), { memory with pending := memory.pending ++ [change] })
    | none => (.error (.unsupportedQuery query), memory)

def ids (memory : Memory) : List String := memory.committed.keys

instance : Engine Memory where
  perform := perform
  count memory := memory.committed.size
  find memory id := .ok (memory.committed.find? id)

end Memory
end CatalogIndex
