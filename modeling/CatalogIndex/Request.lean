import CatalogIndex.Field
import CatalogIndex.Table
import CatalogIndex.Time.Stamp
/-!
The context of a request, which decides prices and active dates. One such context is ambient; a guard
remembers it and puts it back.
-/
namespace CatalogIndex

structure RequestContext where
  locale : Option Locale
  currency : Option String
  pricing : Table String
  /-- Stands in for the wall clock in active-date checks. -/
  activeDate : Option Instant
deriving DecidableEq

namespace RequestContext

def empty : RequestContext := ⟨none, none, .empty, none⟩

instance : Inhabited RequestContext := ⟨empty⟩

def withLocale (context : RequestContext) (locale : Locale) : RequestContext :=
  { context with locale := some locale }

def withCurrency (context : RequestContext) (currency : String) : RequestContext :=
  { context with currency := some currency }

def withPricing (context : RequestContext) (key value : String) : RequestContext :=
  { context with pricing := context.pricing.insert key value }

structure Draft where
  locale : Option (Option Locale)
  currency : Option (Option String)
  pricing : Option (List (String × String))
  activeDate : Option (Option Instant)

def instantDecoder : Json.Decoder Instant := fun depth chars => do
  let (written, rest) ←
    Json.Decoder.textAs "an RFC 3339 formatted date and time string" depth chars
  match Stamp.ofText? written with
  | some instant => return (instant, rest)
  | none => throw (.unexpected none)

open Json.Decoder in
def shape : Shape Draft where
  name := "RequestContext"
  slots := [
    slot "locale" false (·.locale) (fun draft value => { draft with locale := some value })
      (optional Locale.decoder),
    slot "currency" false (·.currency) (fun draft value => { draft with currency := some value })
      (optional text),
    slot "pricing_considerations" false (·.pricing) (fun draft value => { draft with pricing := some value })
      (map text),
    slot "active_date_override" false (·.activeDate) (fun draft value => { draft with activeDate := some value })
      (optional instantDecoder)]
  start := ⟨none, none, none, none⟩

def ofDraft (draft : Draft) : RequestContext where
  locale := draft.locale.getD none
  currency := draft.currency.getD none
  pricing := Table.ofList (draft.pricing.getD [])
  activeDate := draft.activeDate.getD none

def decoder : Json.Decoder RequestContext := fun depth chars =>
  (shape.decode depth chars).map fun (draft, rest) => (ofDraft draft, rest)

def toJson (context : RequestContext) : Json :=
  .object [
    ("locale", (context.locale.map Locale.toJson).getD .null),
    ("currency", (context.currency.map Json.text).getD .null),
    ("pricing_considerations", .object (context.pricing.entries.map fun (key, value) => (key, .text value))),
    ("active_date_override", (context.activeDate.map fun date => Json.text (Stamp.encode date)).getD .null)]

end RequestContext

/-- The ambient context and the contexts that open guards will put back, the newest guard first. -/
structure Ambient where
  current : RequestContext
  guards : List RequestContext

namespace Ambient

def new (context : RequestContext) : Ambient := ⟨context, []⟩

def set (ambient : Ambient) (context : RequestContext) : Ambient := { ambient with current := context }

def guard (ambient : Ambient) : Ambient := { ambient with guards := ambient.current :: ambient.guards }

def release (ambient : Ambient) : Bool × Ambient :=
  match ambient.guards with
  | [] => (false, ambient)
  | saved :: rest => (true, ⟨saved, rest⟩)

def releaseOldest (ambient : Ambient) : Bool × Ambient :=
  match ambient.guards.getLast? with
  | none => (false, ambient)
  | some saved => (true, ⟨saved, ambient.guards.dropLast⟩)

/-- Sets a context under a guard that is closed again at once, as when the work inside gives up. -/
def abandon (ambient : Ambient) (context : RequestContext) : Ambient :=
  ((ambient.guard.set context).release).2

end Ambient
end CatalogIndex
