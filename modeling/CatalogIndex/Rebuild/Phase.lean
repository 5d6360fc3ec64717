/-!
Where a rebuild is.
-/
namespace CatalogIndex

inductive Phase where
  | idle
  /-- The generation to write is being cleared. -/
  | preparing
  | paging
  | finalizing
  | swapping
  /-- The generation out of service is being cleared. -/
  | cleaning
  | done
  | failed
deriving DecidableEq, Repr

namespace Phase

def name : Phase → String
  | idle => "idle"
  | preparing => "preparing"
  | paging => "paging"
  | finalizing => "finalizing"
  | swapping => "swapping"
  | cleaning => "cleaning"
  | done => "done"
  | failed => "failed"

def all : List Phase := [idle, preparing, paging, finalizing, swapping, cleaning, done, failed]

end Phase
end CatalogIndex
