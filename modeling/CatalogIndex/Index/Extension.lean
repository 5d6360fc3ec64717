import CatalogIndex.Dialogue
import CatalogIndex.Document
import CatalogIndex.Error
import CatalogIndex.Item
import CatalogIndex.Request
/-!
Extension handlers, which may add basic fields to a document and supply the values of a descriptor. Handlers
are asked in the order of registration and the first that takes a question settles it. What a handler from
outside does is a question.

The basic-field hook is there to add fields, and a document offers nothing but additions. A handler is lent the
document itself, though, and could put another one in its place. That it only appends is the contract of the hook,
which a reply takes for granted, and not something that the document enforces.
-/
namespace CatalogIndex

/-- The values of a property by locale; the empty locale means that they are not localized. -/
abbrev PropertyValues := Table (List Value)

structure Resolution where
  item : Item
  descriptor : Descriptor
  fieldType : FieldType
  locales : List Locale
  request : RequestContext

inductive Handler where
  /-- Takes the properties that an item has translations for. -/
  | translation
  /-- A handler from outside, told apart from others of its name by a key. -/
  | outside (name : String) (key : Nat)
deriving DecidableEq, Repr

def Handler.name : Handler → String
  | translation => "translation"
  | outside name _ => name

abbrev Chain := List Handler

inductive HandlerQuestion where
  | attach (key : Nat) (item : Item) (document : Document)
  | resolve (key : Nat) (resolution : Resolution)

/-- What a handler has done to a document under the contract of the hook, and whether it settled the question or
failed. -/
structure Attachment where
  /-- The values that it has appended, by the fields that they belong to. A reply has no room for any other change. -/
  additions : List (String × List Value)
  outcome : Except ExtensionError Bool

namespace HandlerQuestion

def Reply : HandlerQuestion → Type
  | attach .. => Attachment
  | resolve .. => Except ExtensionError (Option PropertyValues)

end HandlerQuestion

abbrev Consultation := Dialogue HandlerQuestion.Reply

namespace Chain

/-- Lets handlers append basic fields until one settles the matter or fails. -/
def attach (chain : Chain) (item : Item) (document : Document) :
    Consultation (Document × Except ExtensionError Bool) :=
  match chain with
  | [] => .done (document, .ok false)
  | .translation :: rest => attach rest item document
  | .outside _ key :: rest =>
    .ask (.attach key item document) fun (attachment : Attachment) =>
      let document := document.addAll attachment.additions
      match attachment.outcome with
      | .ok false => attach rest item document
      | outcome => .done (document, outcome)

/-- The translations of a property in the requested locales, if the item has any entry for the property. -/
def translated? (resolution : Resolution) : Option PropertyValues :=
  (resolution.item.translations.find? resolution.descriptor.propertyName).map fun texts =>
    Table.ofList (resolution.locales.filterMap fun locale =>
      (texts.find? locale.code).map fun text => (locale.code, [.text text]))

/-- Asks handlers for the values of a property until one has them or fails. -/
def resolve (chain : Chain) (resolution : Resolution) :
    Consultation (Except ExtensionError (Option PropertyValues)) :=
  match chain with
  | [] => .done (.ok none)
  | .translation :: rest =>
    match translated? resolution with
    | some values => .done (.ok (some values))
    | none => resolve rest resolution
  | .outside _ key :: rest =>
    .ask (.resolve key resolution) fun (reply : Except ExtensionError (Option PropertyValues)) =>
      match reply with
      | .ok none => resolve rest resolution
      | reply => .done reply

end Chain
end CatalogIndex
