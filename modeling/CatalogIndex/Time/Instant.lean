import CatalogIndex.Time.Civil
/-!
Instants in coordinated universal time, to the nanosecond. A leap second is counted as the second before it
with a thousand million nanoseconds more.
-/
namespace CatalogIndex

/-- The whole seconds of the first and the last instant, in the years -262143 and 262142. -/
def Instant.firstSecond : Int := -8334601228800
def Instant.lastSecond : Int := 8210266876799

/-- An instant as seconds since 1970-01-01T00:00:00Z and nanoseconds after that second. -/
structure Instant where
  seconds : Int
  nanos : Nat
  inRange : Instant.firstSecond ≤ seconds ∧ seconds ≤ Instant.lastSecond
  nanosFit : nanos < 1000000000 ∨ (nanos < 2000000000 ∧ seconds % 60 = 59)
deriving DecidableEq, Repr

namespace Instant

def ofParts? (seconds : Int) (nanos : Nat) : Option Instant :=
  if inRange : firstSecond ≤ seconds ∧ seconds ≤ lastSecond then
    if nanosFit : nanos < 1000000000 ∨ (nanos < 2000000000 ∧ seconds % 60 = 59) then
      some ⟨seconds, nanos, inRange, nanosFit⟩
    else none
  else none

def epoch : Instant := ⟨0, 0, by decide, by decide⟩

instance : Inhabited Instant := ⟨epoch⟩

instance : LE Instant where
  le left right := left.seconds < right.seconds ∨ (left.seconds = right.seconds ∧ left.nanos ≤ right.nanos)

instance : LT Instant where
  lt left right := left.seconds < right.seconds ∨ (left.seconds = right.seconds ∧ left.nanos < right.nanos)

instance (left right : Instant) : Decidable (left ≤ right) := inferInstanceAs (Decidable (_ ∨ _))

instance (left right : Instant) : Decidable (left < right) := inferInstanceAs (Decidable (_ ∨ _))

theorem ofParts?_self (instant : Instant) : ofParts? instant.seconds instant.nanos = some instant := by
  unfold ofParts?
  rw [dif_pos instant.inRange, dif_pos instant.nanosFit]

end Instant
end CatalogIndex
