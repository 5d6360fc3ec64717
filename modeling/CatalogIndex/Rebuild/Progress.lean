import CatalogIndex.Time.Instant
/-!
How far a rebuild has come.
-/
namespace CatalogIndex

structure Progress where
  asOf : Option Instant
  totalItems : UInt64
  totalPages : UInt64
  pages : Nat
  documents : Nat
  completed : Bool
deriving DecidableEq, Repr

namespace Progress

def start (asOf : Instant) : Progress := ⟨some asOf, 0, 0, 0, 0, false⟩

def withTotals (progress : Progress) (items pages : UInt64) : Progress :=
  { progress with totalItems := items, totalPages := pages }

def recordPage (progress : Progress) (documents : Nat) : Progress :=
  { progress with pages := progress.pages + 1, documents := progress.documents + documents }

def complete (progress : Progress) : Progress := { progress with completed := true }

end Progress
end CatalogIndex
