import CatalogIndex.Error
import CatalogIndex.Item
import CatalogIndex.Settings.Basic
import CatalogIndex.Text.Cut
/-!
Property paths: segments joined by dots. A name reads a member of an object, a number an element of a list, and
the configured list property takes the segment after it as a key, which selects an element of the list and
reads that element's value. `PropertyPath.parse` accepts exactly the texts of this grammar; `Address.render`
writes a path from its steps.
-/
namespace CatalogIndex

inductive Segment where
  | name (name : String)
  | index (position : UInt64)
  | key (key : String)
deriving DecidableEq, Repr

structure PropertyPath where
  text : String
  segments : List Segment
  keyMember : String
  valueMember : String
deriving DecidableEq, Repr

namespace PropertyPath

def emptySegment : String := "empty segment"
def keyMissing : String := "mapped list property without a key"
def indexTooLarge : String := "list index out of range"

/-- Reads the fragments from left to right; the first violation counts. A number is a list index only after
the first segment. -/
def readSegments (listProperty : String) (isFirst : Bool) : List String → Except String (List Segment)
  | [] => .ok []
  | part :: rest =>
    if part = "" then .error emptySegment
    else if part = listProperty then
      match rest with
      | [] => .error keyMissing
      | key :: rest =>
        if key = "" then .error emptySegment
        else (readSegments listProperty false rest).map fun later => .name part :: .key key :: later
    else if !isFirst && part.toList.all Numeral.isDigit then
      let position := Numeral.value part.toList
      if position < UInt64.size then
        (readSegments listProperty false rest).map fun later => .index (UInt64.ofNat position) :: later
      else .error indexTooLarge
    else (readSegments listProperty false rest).map fun later => .name part :: later

def parse (mapped : MappedList) (text : String) : Except ResolveError PropertyPath :=
  match readSegments mapped.listProperty true ((Cut.everywhere '.' text.toList).map String.ofList) with
  | .ok segments => .ok ⟨text, segments, mapped.keyMember, mapped.valueMember⟩
  | .error reason => .error (.invalidPath text reason)

def idProperty : String := "id"

/-- A property of an item; its id hides an attribute of that name. -/
def property? (item : Item) (name : String) : Option Attribute :=
  if name = idProperty then some (.value (.integer item.id)) else item.attributes.find? name

def step (keyMember valueMember : String) (segment : Segment) (tree : Attribute) : Option Attribute :=
  match segment, tree with
  | .name name, .object _ => tree.member? name
  | .index position, .list items => items[position.toNat]?
  | .key key, .list items =>
    (items.find? fun element => ((element.member? keyMember).bind Attribute.asText) == some key).bind
      (Attribute.member? valueMember)
  | .key key, .object _ => (tree.member? key).bind (Attribute.member? valueMember)
  | _, _ => none

def follow (keyMember valueMember : String) (segments : List Segment) (tree : Attribute) : Option Attribute :=
  segments.foldlM (fun tree segment => step keyMember valueMember segment tree) tree

def evaluate (path : PropertyPath) (item : Item) : Except ResolveError Attribute :=
  match path.segments with
  | .name name :: rest =>
    match (property? item name).bind (follow path.keyMember path.valueMember rest) with
    | some tree => .ok tree
    | none => .error (.missingProperty path.text)
  | _ => .error (.invalidPath path.text "path must start with a property name")

def toValues (path : String) : Attribute → Except ResolveError (List Value)
  | .value value => .ok [value]
  | .list items =>
    match items.mapM Attribute.asValue with
    | some values => .ok values
    | none => .error (.notIndexable path)
  | .object _ => .error (.notIndexable path)

end PropertyPath

inductive Step where
  | name (name : String)
  | index (position : UInt64)
  | mapped (key : String)
deriving DecidableEq, Repr

namespace Step

def fragments (listProperty : String) : Step → List String
  | .name text => [text]
  | .index position => [Numeral.ofNat position.toNat]
  | .mapped key => [listProperty, key]

end Step

abbrev Address := List Step

def Address.render (listProperty : String) (address : Address) : String :=
  ".".intercalate (address.flatMap (Step.fragments listProperty))

end CatalogIndex
