import CatalogIndex.Generation.Faulty
import CatalogIndex.Generation.Memory
import CatalogIndex.Generation.Segmented
import CatalogIndex.Rehearsal.Script
import CatalogIndex.Rehearsal.Tagged
/-!
Rehearsals written as JSON: the items of the catalog and their categories, the handlers, and what goes wrong.
-/
namespace CatalogIndex.Scene

def part {α : Type} (decoder : Json.Decoder α) (fallback : α) (json : Json) : α :=
  match decoder.decode json.render with
  | .ok value => value
  | .error _ => fallback

def fieldTypes (json : Json) : List FieldType := json.elements.map (part FieldType.decoder .text)

def descriptors (json : Json) : List Descriptor :=
  json.elements.map (part Descriptor.decoder ⟨"", "", false, [], none⟩)

def locales (json : Json) : List Locale := json.elements.map (part Locale.decoder ⟨"", none, false⟩)

def context (json : Json) : RequestContext := part RequestContext.decoder .empty json

def mappedList (json : Json) : MappedList := part MappedList.decoder .standard json

/-- Categories name their parents by position among the earlier ones. -/
def categories (json : Json) : List Category :=
  json.elements.foldl (fun known entry =>
    known ++ [.mk entry["id"].asInt64 entry["name"].asText (entry["items"].elements.map Json.asInt64)
      (entry["parents"].asNats.filterMap fun position => known[position]?)]) []

def item (known : List Category) (json : Json) : Item where
  id := json["id"].asInt64
  categories := json["categories"].asNats.filterMap fun position => known[position]?
  attributes := Table.ofList (json["attributes"].entries.map fun (name, content) => (name, Tagged.tree content))
  translations := Table.ofList (json["translations"].entries.map fun (name, texts) =>
    (name, Table.ofList (texts.entries.map fun (locale, content) => (locale, content.asText))))
  activeStart := json["active"].elements[0]?.bind Tagged.instant?
  activeEnd := json["active"].elements[1]?.bind Tagged.instant?

def stock (json : Json) : List Item := json["items"].elements.map (item (categories json["categories"]))

def basicEntry (json : Json) : BasicEntry where
  item := json["item"].asInt?.map Int64.ofInt
  fields := json["fields"].elements.filterMap fun pair =>
    match pair.elements with
    | [name, content] => some (name.asText, Tagged.value content)
    | _ => none
  error := json["error"].asText?
  handled := json["handled"].asFlag

def scriptedReply (json : Json) : ScriptedReply :=
  if json.has "error" then .fails json["error"].asText
  else if json["echo"].asFlag then .echo
  else if json.has "values" then .values (Tagged.lists json["values"])
  else .declines

def handler (json : Json) : ScriptedHandler where
  name := json["name"].asText
  basic := json["basic"].elements.map basicEntry
  resolve := Table.ofList (json["resolve"].entries.map fun (key, content) => (key, scriptedReply content))

/-- The chain of handlers, of which a text stands for the one for translations, and the scripts of the rest. -/
def handlers (json : Json) : Chain × Company :=
  json.elements.foldl (fun (chain, company) entry =>
    match entry with
    | .text _ => (chain ++ [.translation], company)
    | entry =>
      let handler := handler entry
      (chain ++ [.outside handler.name company.length], company ++ [handler])) ([], [])

def catalogError (json : Json) : CatalogError :=
  let message := json["message"].asText
  match json["kind"].asText with
  | "Config" => .config message
  | "Serialization" => .serialization message
  | "NotFound" => .notFound message
  | "InvalidInput" => .invalidInput message
  | _ => .storage message

def optional {α : Type} (read : Json → α) (json : Json) (name : String) : Option α :=
  if json.has name then some (read (json.member name)) else none

def transactionFaults (json : Json) : TransactionFaults :=
  ⟨json["fail_begin"].asNats, json["fail_commit"].asNats, json["fail_rollback"].asNats⟩

def faultPlan (json : Json) : FaultPlan where
  failAdd := json["fail_add"].asNat?
  failDelete := json["fail_delete"].asFlag
  failOptimize := json["fail_optimize"].asFlag
  adds := 0

def lossPlan (json : Json) : LossPlan where
  failCommits := json["fail_commit"].asNats
  failRollback := json["fail_rollback"].asFlag
  commits := 0

abbrev FaultyMemory := Faulty FaultPlan (Faulty LossPlan Memory)

def catalogFaults (json : Json) : CatalogFaults where
  reenters := json["reenter"].asFlag
  failCount := optional catalogError json "fail_count"
  count := json["count"].asWord?
  failPage := json["fail_page"].asWord?
  pageError := catalogError json["page_error"]

def descriptorFaults (json : Json) : DescriptorFaults where
  setContext := optional context json "set_context"
  panicOn := json["panic_on"].asNat?
  failOn := json["fail_on"].asNat?
  error := catalogError json["error"]

def script (json : Json) : Script where
  catalog := .ofItems (stock json)
  descriptors := descriptors json["descriptors"]
  locales := locales json["locales"]
  company := (handlers json["extensions"]).2
  catalogFaults := catalogFaults json["faults"]["catalog"]
  descriptorFaults := descriptorFaults json["faults"]["fields"]
  localesError := optional catalogError json["faults"]["locales"] "error"
  audience := ⟨true, none⟩
  recorder := .new (transactionFaults json["faults"]["transactions"])
  descriptorCalls := 0
  calls := []
  snapshots := []
  nested := []

def seeded (json : Json) (name : String) : Named FaultyMemory :=
  let filled := (Memory.perform (.add (Tagged.documents (json["seed"].member name))) .empty).2
  let memory := if json["seed"].has name then (Memory.perform .commit filled).2 else .empty
  let faults := json["faults"].member name
  ⟨name, ⟨faultPlan faults, ⟨lossPlan faults, memory⟩⟩⟩

def mode (json : Json) : GenerationMode := if json["mode"].asText = "shared" then .shared else .dual

def pair (json : Json) : Pair FaultyMemory :=
  match mode json with
  | .shared => .shared (seeded json "only")
  | .dual => .dual (seeded json Pair.primaryName) (seeded json Pair.reindexName)

def writerMemory (json : Json) : UInt64 := json["memory_mb"].asWord?.getD Segmented.leastMemory

def marker (json : Json) : Marker :=
  if json["marker_dir"].asFlag then .blocked
  else match json["marker"].asText? with
    | some content => .written content
    | none => .absent

def openPair (json : Json) (marker : Marker) (directory : String → List (List Stored)) :
    Except SearchError (Pair Segmented) :=
  Pair.openWith (mode json) (fun name => Segmented.openWith (writerMemory json) (directory name)) marker

def seedInto (json : Json) (pair : Pair Segmented) : Pair Segmented :=
  let seedOne (pair : Pair Segmented) (name : String) : Pair Segmented :=
    if (pair.named? name).isNone then pair
    else ((Maintenance.writeBatch (Tagged.documents (json["seed"].member name))).exec
      (fun operation pair => pair.performNamed name operation) pair).2
  { [Pair.primaryName, Pair.reindexName].foldl seedOne pair with log := [] }

/-- The ids of the documents that a scene may lead to: those of its items, of items upserted in its steps, and
of its seeds. -/
def knownIds (json : Json) (nameSpace : String) : List String :=
  let upserted := json["steps"].elements.filterMap fun step => optional id step "item"
  let ofItems := (json["items"].elements ++ upserted).map fun item =>
    Naming.documentId nameSpace item["id"].asInt64
  let seeds := json["seed"].entries.flatMap fun (_, list) => (Tagged.documents list).filterMap Document.id?
  (Table.ofList ((ofItems ++ seeds).map fun id => (id, ()))).keys

end CatalogIndex.Scene
