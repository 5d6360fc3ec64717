import CatalogIndex.Index.Extension
/-!
Extension handlers that follow a script, and a log of what they are asked.
-/
namespace CatalogIndex

structure BasicEntry where
  /-- The item that the entry is for; any item if there is none. -/
  item : Option Int64
  fields : List (String × Value)
  error : Option String
  handled : Bool

inductive ScriptedReply where
  | fails (cause : String)
  | echo
  | values (values : PropertyValues)
  | declines

structure ScriptedHandler where
  name : String
  basic : List BasicEntry
  /-- Replies by `property#type`, by property, or by `*`. -/
  resolve : Table ScriptedReply

namespace ScriptedHandler

def attach (handler : ScriptedHandler) (item : Item) : List BasicEntry → Attachment
  | [] => ⟨[], .ok false⟩
  | entry :: rest =>
    if entry.item.any (· != item.id) then attach handler item rest
    else
      let additions := entry.fields.map fun (name, value) => (name, [value])
      match entry.error with
      | some cause => ⟨additions, .error ⟨handler.name, cause⟩⟩
      | none =>
        if entry.handled then ⟨additions, .ok true⟩
        else
          let later := attach handler item rest
          ⟨additions ++ later.additions, later.outcome⟩

def echo (resolution : Resolution) : PropertyValues :=
  let request := resolution.request
  Table.empty.insert "echo"
    (.integer resolution.item.id ::
      ([resolution.fieldType.name, request.currency.getD "-", (request.locale.map Locale.code).getD "-"] ++
        resolution.locales.map Locale.code).map .text)

/-- The reply for a property and type; the most specific entry counts. -/
def replyFor (handler : ScriptedHandler) (property : String) (fieldType : FieldType) : ScriptedReply :=
  ((handler.resolve.find? (property ++ "#" ++ fieldType.name)).or
    ((handler.resolve.find? property).or (handler.resolve.find? "*"))).getD .declines

def resolveFor (handler : ScriptedHandler) (resolution : Resolution) :
    Except ExtensionError (Option PropertyValues) :=
  match handler.replyFor resolution.descriptor.propertyName resolution.fieldType with
  | .fails cause => .error ⟨handler.name, cause⟩
  | .echo => .ok (some (echo resolution))
  | .values values => .ok (some values)
  | .declines => .ok none

def attachCall (handler : ScriptedHandler) (item : Item) : String :=
  handler.name ++ ".basic(" ++ Numeral.ofInt item.id.toInt ++ ")"

def resolveCall (handler : ScriptedHandler) (resolution : Resolution) : String :=
  handler.name ++ ".resolve(" ++ resolution.descriptor.propertyName ++ "," ++ resolution.fieldType.name ++ ")"

end ScriptedHandler

abbrev Company := List ScriptedHandler

namespace Company

/-- Replies to a question and tells what to log; an unknown handler declines. -/
def reply (company : Company) : (question : HandlerQuestion) → question.Reply × List String
  | .attach key item _ =>
    match company[key]? with
    | some handler => (handler.attach item handler.basic, [handler.attachCall item])
    | none => ((⟨[], .ok false⟩ : Attachment), [])
  | .resolve key resolution =>
    match company[key]? with
    | some handler => (handler.resolveFor resolution, [handler.resolveCall resolution])
    | none => ((.ok none : Except ExtensionError (Option PropertyValues)), [])

def respond (company : Company) : Dialogue.Responder HandlerQuestion.Reply (List String) := fun question calls =>
  let (reply, logged) := company.reply question
  (reply, calls ++ logged)

end Company
end CatalogIndex
