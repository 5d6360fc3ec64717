/-!
What can go wrong, each failure as its cause, and the wording of every failure in one place.
-/
namespace CatalogIndex

inductive CatalogError where
  | config (detail : String)
  | serialization (detail : String)
  | storage (detail : String)
  | notFound (detail : String)
  | invalidInput (detail : String)
deriving DecidableEq, Repr

inductive SearchError where
  | engine (detail : String)
  | queryParse (detail : String)
  | fileSystem (detail : String)
  | serialization (detail : String)
  | invalidDocument (detail : String)
  | schemaMismatch (detail : String)
  | indexLocked (detail : String)
  | communication (detail : String)
  | rejected (detail : String)
  | unsupportedQuery (query : String)
deriving DecidableEq, Repr

structure ExtensionError where
  handler : String
  cause : String
deriving DecidableEq, Repr

/-- Failures to produce the values of one descriptor; they never end a rebuild. -/
inductive ResolveError where
  | invalidPath (path reason : String)
  | missingProperty (path : String)
  /-- The addressed attribute is an object or contains one. -/
  | notIndexable (path : String)
  | extension (error : ExtensionError)
deriving DecidableEq, Repr

inductive TransactionError where
  | begin (detail : String)
  | commit (detail : String)
  | rollback (detail : String)
deriving DecidableEq, Repr

inductive RebuildError where
  | rebuildFailed (error : SearchError)
  /-- Clearing a generation failed. -/
  | deleteFailed (error : SearchError)
  | catalog (error : CatalogError)
  | extension (error : ExtensionError)
  | transaction (error : TransactionError)
  | cancelled
  | alreadyRunning
  | invalidConfig (detail : String)
  | task (detail : String)
deriving DecidableEq, Repr

def CatalogError.message : CatalogError → String
  | config detail => "Configuration error: " ++ detail
  | serialization detail => "Serialization error: " ++ detail
  | storage detail => "Storage error: " ++ detail
  | notFound detail => "Not found: " ++ detail
  | invalidInput detail => "Invalid input: " ++ detail

def SearchError.message : SearchError → String
  | engine detail => "Engine error: " ++ detail
  | queryParse detail => "Query parse error: " ++ detail
  | fileSystem detail => "IO error: " ++ detail
  | serialization detail => "Serialization error: " ++ detail
  | invalidDocument detail => "Invalid document: " ++ detail
  | schemaMismatch detail => "Schema mismatch: " ++ detail
  | indexLocked detail => "Index is locked: " ++ detail
  | communication detail => "Communication error: " ++ detail
  | rejected detail => "Engine rejected request: " ++ detail
  | unsupportedQuery query => "Unsupported query: " ++ query

def ExtensionError.message (error : ExtensionError) : String :=
  "Extension '" ++ error.handler ++ "' failed: " ++ error.cause

def ResolveError.message : ResolveError → String
  | invalidPath path reason => "Invalid property path '" ++ path ++ "': " ++ reason
  | missingProperty path => "Property not found: " ++ path
  | notIndexable path => "Property '" ++ path ++ "' is not indexable"
  | extension error => error.message

def TransactionError.message : TransactionError → String
  | begin detail => "Could not begin transaction: " ++ detail
  | commit detail => "Could not commit transaction: " ++ detail
  | rollback detail => "Could not roll back transaction: " ++ detail

def RebuildError.message : RebuildError → String
  | rebuildFailed error => "Could not rebuild index: " ++ error.message
  | deleteFailed error => "Could not delete documents: " ++ error.message
  | catalog error => "Catalog error: " ++ error.message
  | extension error => error.message
  | transaction error => "Transaction error: " ++ error.message
  | cancelled => "Rebuild cancelled"
  | alreadyRunning => "A rebuild is already running"
  | invalidConfig detail => "Invalid configuration: " ++ detail
  | task detail => "Rebuild task failed: " ++ detail

/-- Whether the failure names another one as its source. An extension failure passes for its own cause. -/
def RebuildError.hasSource : RebuildError → Bool
  | rebuildFailed _ | deleteFailed _ | catalog _ | transaction _ => true
  | _ => false

end CatalogIndex
