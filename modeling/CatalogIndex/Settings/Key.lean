import CatalogIndex.Value
/-!
Layers of settings as JSON trees, and how a later layer is laid over earlier ones. The names of a layer are
paths: `a.b` is the member `b` of the table `a`, `a[0]` the first element of the list `a` and `a[-1]` its last
one. Tables are laid over tables member by member; everything else takes the place of what was there. Names do not
depend on case.
-/
namespace CatalogIndex

inductive KeyPart where
  | member (name : String)
  /-- An element of a list; below zero it is counted from the end. -/
  | element (index : Int)
deriving DecidableEq, Repr

namespace Key

def isNameChar (c : Char) : Bool := c.isAlphanum || c == '_' || c == '-' || c == ' '

def skipBlanks (chars : List Char) : List Char := chars.dropWhile fun c => c == ' ' || c == '\t'

def index? (chars : List Char) : Option (Int × List Char) :=
  let chars := skipBlanks chars
  let (negative, digits) := match chars with
    | '-' :: rest => (true, rest)
    | _ => (false, chars)
  match skipBlanks (digits.dropWhile Numeral.isDigit) with
  | ']' :: rest =>
    (Numeral.toNat? (digits.takeWhile Numeral.isDigit)).bind fun n =>
      let n : Int := if negative then -n else n
      if Value.fitsInteger n then some (n, rest) else none
  | _ => none

def partsAfter? (fuel : Nat) (chars : List Char) : Option (List KeyPart) :=
  match fuel, chars with
  | _, [] => some []
  | 0, _ => none
  | fuel + 1, '.' :: rest =>
    let name := rest.takeWhile isNameChar
    if name = [] then none
    else (partsAfter? fuel (rest.dropWhile isNameChar)).map (.member (String.ofList name) :: ·)
  | fuel + 1, '[' :: rest =>
    (index? rest).bind fun (index, rest) => (partsAfter? fuel rest).map (.element index :: ·)
  | _, _ => none

/-- The path that a name stands for; a name that is no path stands for itself. -/
def parse (name : String) : List KeyPart :=
  let chars := name.toList
  let first := chars.takeWhile isNameChar
  let parts := if first = [] then none
    else (partsAfter? chars.length (chars.dropWhile isNameChar)).map (.member (String.ofList first) :: ·)
  parts.getD [.member name]

/-- The lower-case form of a name. The Kelvin sign is the only character beyond ASCII with an ASCII one. -/
def lower (name : String) : String :=
  String.ofList (name.toList.map fun c => if c = '\u212a' then 'k' else c.toLower)

def membersOf : Json → List (String × Json)
  | .object members => members
  | _ => []

def elementsOf : Json → List Json
  | .array elements => elements
  | _ => []

def find? (name : String) : List (String × Json) → Option Json
  | [] => none
  | (other, value) :: rest => if name = other then some value else find? name rest

/-- Puts a value under a name, in its old place or at the end. -/
def put (name : String) (value : Json) : List (String × Json) → List (String × Json)
  | [] => [(name, value)]
  | (other, kept) :: rest => if name = other then (name, value) :: rest else (other, kept) :: put name value rest

mutual

/-- Lays a value over what is there: a table member by member, anything else in its place. An empty table
leaves what is there. -/
def overlay (there : Option Json) : Json → Json
  | .object members => overlayMembers (there.getD (.object [])) members
  | value => value

def overlayMembers (there : Json) : List (String × Json) → Json
  | [] => there
  | (name, value) :: rest =>
    let members := membersOf there
    let name := lower name
    overlayMembers (.object (put name (overlay (find? name members) value) members)) rest

end

/-- Changes the element of an index, the list being filled up with nulls as far as needed. Before the first element
there is nothing to change. -/
def changeElement (index : Int) (change : Json → Json) (there : Json) : Json :=
  let elements := elementsOf there
  let place := if index < 0 then index + elements.length else index
  if place < 0 then .array elements
  else
    let filled := elements ++ List.replicate (place.toNat + 1 - elements.length) .null
    .array (filled.modify place.toNat change)

/-- Lays a value over the place of a path; what stands in the way is replaced. -/
def place (value : Json) : List KeyPart → Json → Json
  | [], there => there
  | [.member name], there =>
    let members := membersOf there
    .object (put name (overlay (find? name members) value) members)
  | [.element index], there => changeElement index (fun _ => value) there
  | .member name :: rest, there =>
    let members := membersOf there
    .object (put name (place value rest ((find? name members).getD .null)) members)
  | .element index :: rest, there => changeElement index (place value rest) there

def merge (earlier layer : Json) : Json :=
  (membersOf layer).foldl (fun there entry => place entry.2 (parse (lower entry.1)) there) earlier

def mergeAll (layers : List Json) : Json := layers.foldl merge (.object [])

end Key
end CatalogIndex
