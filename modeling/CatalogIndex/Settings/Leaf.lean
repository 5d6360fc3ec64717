import CatalogIndex.Number.Layout
import CatalogIndex.Number.Reading
import CatalogIndex.Settings.Basic
import CatalogIndex.Settings.Key
/-!
Settings out of a tree of layers. Where a number is wanted, texts and truth values that stand for one will do;
where a text is wanted, the text of a number or truth value will do.
-/
namespace CatalogIndex.Leaf

def wordOfText? (text : String) : Option UInt64 :=
  let word := Key.lower text
  if word = "true" ∨ word = "on" ∨ word = "yes" then some 1
  else if word = "false" ∨ word = "off" ∨ word = "no" then some 0
  else
    let digits := match text.toList with
      | '+' :: rest => rest
      | chars => chars
    (Numeral.toNat? digits).bind fun n => if n < UInt64.size then some (UInt64.ofNat n) else none

def word? : Json → Option UInt64
  | .bool value => some (if value then 1 else 0)
  | .integer n => if 0 ≤ n ∧ n < UInt64.size then some (UInt64.ofNat n.toNat) else none
  | .decimal x => some x.toWord
  | .text text => wordOfText? text
  | _ => none

def text? : Json → Option String
  | .bool value => some (if value then "true" else "false")
  | .integer n => some (Numeral.ofInt n)
  | .decimal x => some x.display
  | .text text => some text
  | _ => none

def modeOfName? (name : String) : Option GenerationMode :=
  (GenerationMode.variants.find? fun entry => entry.1 == Key.lower name).map (·.2)

/-- A setting that is a mode: its name, or a table with the name as its only member. -/
def mode? : Json → Option GenerationMode
  | .text name => modeOfName? name
  | .object [(name, _)] => modeOfName? name
  | _ => none

def orDefault {α : Type} (fallback : α) (read : Json → Option α) : Option Json → Option α
  | none => some fallback
  | some value => read value

/-- The settings of named lists, as a table or as a list in their order. -/
def mappedList? (tree : Json) : Option MappedList :=
  let base := MappedList.standard
  let make (find : Nat → String → Option Json) : Option MappedList := do
    return {
      listProperty := ← orDefault base.listProperty text? (find 0 "list_property")
      keyMember := ← orDefault base.keyMember text? (find 1 "key_member")
      valueMember := ← orDefault base.valueMember text? (find 2 "value_member") }
  match tree with
  | .object members => make fun _ name => Key.find? name members
  | .array elements => make fun position _ => elements[position]?
  | _ => none

def settings? (indexRoot : String) (tree : Json) : Option Settings := do
  let base := Settings.standard indexRoot
  let find (name : String) : Option Json := Key.find? name (Key.membersOf tree)
  return {
    pageSize := ← orDefault base.pageSize word? (find "page_size")
    nameSpace := ← orDefault base.nameSpace text? (find "namespace")
    mode := ← orDefault base.mode mode? (find "generation_mode")
    indexRoot := ← orDefault base.indexRoot text? (find "index_root")
    writerMemory := ← orDefault base.writerMemory word? (find "writer_memory_mb")
    mappedList := ← orDefault base.mappedList mappedList? (find "mapped_list") }

def defaults (indexRoot : String) : Json :=
  let base := Settings.standard indexRoot
  .object [
    ("page_size", .integer base.pageSize.toNat),
    ("namespace", .text base.nameSpace),
    ("index_root", .text base.indexRoot),
    ("writer_memory_mb", .integer base.writerMemory.toNat)]

end CatalogIndex.Leaf
