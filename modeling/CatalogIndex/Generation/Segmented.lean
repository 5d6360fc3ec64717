import CatalogIndex.Generation.Engine
import CatalogIndex.Generation.QueryReader
/-!
A generation kept on disk, in segments. Every commit that leaves added documents alive writes them as one new
segment; compacting merges the segments into one. Opening the directory again finds what was committed last.
-/
namespace CatalogIndex

namespace Segmented

inductive Change where
  | add (stored : Stored)
  | clear
  | remove (query : Query)

structure Layers where
  segments : List (List Stored)
  added : List Stored

namespace Layers

def retain (layers : Layers) (test : Stored → Bool) : Layers :=
  ⟨layers.segments.map (·.filter test), layers.added.filter test⟩

def apply (layers : Layers) : Change → Layers
  | .add stored =>
    let others := layers.retain fun other => other.id != stored.id
    { others with added := others.added ++ [stored] }
  | .clear => layers.retain fun _ => false
  | .remove query => layers.retain fun stored => !query.holds stored

/-- The segments after a commit: the added documents are the last one, and none is empty. -/
def close (layers : Layers) : List (List Stored) :=
  (layers.segments ++ [layers.added]).filter (!·.isEmpty)

end Layers
end Segmented

structure Segmented where
  segments : List (List Stored)
  pending : List Segmented.Change

namespace Segmented

def empty : Segmented := ⟨[], []⟩

instance : Inhabited Segmented := ⟨empty⟩

/-- The least and the most memory that a writer works with, in megabytes. It shares the memory among eight threads,
each of which has 32-bit addresses less a million bytes of reserve. -/
def leastMemory : UInt64 := 15
def mostMemory : UInt64 := 32760

/-- Opens what a directory holds; changes that were not committed are gone. -/
def openWith (memory : UInt64) (directory : List (List Stored)) : Except SearchError Segmented :=
  if memory < leastMemory then .error (.engine "the memory for the writer is too small")
  else if mostMemory < memory then .error (.engine "the memory for the writer is too large")
  else .ok ⟨directory, []⟩

/-- What opening a directory comes to while it is open already. -/
def openTwice : Except SearchError Segmented := .error (.engine "the directory is locked by another writer")

/-- The stored forms of the documents before the first one that has none, and that one's failure. -/
def prepare : List Document → List Stored × Except SearchError Unit
  | [] => ([], .ok ())
  | document :: rest =>
    match Stored.ofDocument document with
    | .ok stored =>
      let (later, outcome) := prepare rest
      (stored :: later, outcome)
    | .error error => ([], .error error)

def changeOf (query : String) : Except SearchError Change :=
  if Blank.trimText query = allDocuments then .ok .clear else (Query.parse query).map .remove

def settled (generation : Segmented) : List (List Stored) :=
  (generation.pending.foldl Layers.apply ⟨generation.segments, []⟩).close

def perform (operation : Operation) (generation : Segmented) : Except SearchError Unit × Segmented :=
  match operation with
  | .add documents =>
    let (stored, outcome) := prepare documents
    (outcome, { generation with pending := generation.pending ++ stored.map .add })
  | .commit => (.ok (), ⟨generation.settled, []⟩)
  | .rollback => (.ok (), { generation with pending := [] })
  | .optimize =>
    (.ok (), if generation.segments.length ≤ 1 then generation
      else { generation with segments := [generation.segments.flatten] })
  | .delete query =>
    match changeOf query with
    | .ok change => (.ok (), { generation with pending := generation.pending ++ [change] })
    | .error error => (.error error, generation)

def documents (generation : Segmented) : List Stored := generation.segments.flatten

def countOf (generation : Segmented) (query : String) : Except SearchError Nat :=
  (Query.parse query).map fun query => generation.documents.countP query.holds

def find (generation : Segmented) (id : String) : Except SearchError (Option Document) :=
  match generation.documents.find? fun stored => stored.id == id with
  | some stored => stored.toDocument.map some
  | none => .ok none

instance : Engine Segmented where
  perform := perform
  count generation := generation.documents.length
  find := find

end Segmented
end CatalogIndex
