import CatalogIndex.Table
import CatalogIndex.Text.Cut
import CatalogIndex.Toml.Document
import CatalogIndex.Value
/-!
The files that settings come from: how their paths are followed, which form a name tells, and the layer that a
content makes.
-/
namespace CatalogIndex

inductive FileForm where
  | toml
  | json
deriving DecidableEq, Repr

namespace FileForm

def ofExtension? : List Char → Option FileForm
  | ['t', 'o', 'm', 'l'] => some toml
  | ['j', 's', 'o', 'n'] => some json
  | _ => none

mutual

/-- Whole numbers beyond 64 bits become binary numbers, and of two members of a name the last one counts. -/
def narrow : Json → Json
  | .integer n => if Value.fitsInteger n then .integer n else .decimal (Binary64.ofInt n)
  | .array elements => .array (narrowElements elements)
  | .object members => .object (Table.ofList (narrowMembers members)).entries
  | other => other

def narrowElements : List Json → List Json
  | [] => []
  | element :: rest => narrow element :: narrowElements rest

def narrowMembers : List (String × Json) → List (String × Json)
  | [] => []
  | (name, value) :: rest => (name, narrow value) :: narrowMembers rest

end

def withoutMark (content : String) : String :=
  match content.toList with
  | '\ufeff' :: rest => String.ofList rest
  | _ => content

/-- The layer that a content makes, which has to be a table. Only TOML may start with a byte order mark. -/
def layer? (form : FileForm) (content : String) : Option Json :=
  match form with
  | toml => Toml.parse (withoutMark content)
  | json =>
    match Json.parse content with
    | .ok (.object members) => some (narrow (.object members))
    | _ => none

end FileForm

namespace Files

def partsOf (path : String) : List (List Char) :=
  (Cut.everywhere '/' path.toList).filter fun part => part ≠ [] ∧ part ≠ ['.']

def ofParts (parts : List (List Char)) : String := String.ofList ('/' :: Cut.join '/' parts)

def upward : List Char := ['.', '.']

/-- Whether parts lead to a directory: there is a file below it. -/
def isDirectory (files : Table String) (parts : List (List Char)) : Bool :=
  files.keys.any fun path => parts.isPrefixOf (partsOf path) && parts.length < (partsOf path).length

/-- Follows parts from a directory; all but the last one have to lead to directories. -/
def follow? (files : Table String) (directory : List (List Char)) : List (List Char) → Option (List (List Char))
  | [] => some directory
  | part :: rest =>
    if part = upward then follow? files directory.dropLast rest
    else if rest = [] ∨ isDirectory files (directory ++ [part]) then follow? files (directory ++ [part]) rest
    else none

def contentAt? (files : Table String) (parts : List (List Char)) : Option String :=
  if parts.getLast? = some upward then none
  else (follow? files [] parts).bind fun parts => files.find? (ofParts parts)

/-- Whether a path can name a file: it ends in no part that leads to a directory. -/
def namesFile (path : String) : Bool :=
  (partsOf path).getLast? == (Cut.everywhere '/' path.toList).getLast?

/-- The extension of the last of some parts: what follows its last point, with which it may not start. -/
def extension? (parts : List (List Char)) : Option (List Char) :=
  let reversed := (parts.getLast?.getD []).reverse
  match reversed.dropWhile (· != '.') with
  | '.' :: _ :: _ => some (reversed.takeWhile (· != '.')).reverse
  | _ => none

def extend (parts : List (List Char)) (ending : String) : List (List Char) :=
  parts.modify (parts.length - 1) (· ++ ending.toList)

inductive Found where
  | missing
  | file (form : FileForm) (content : String)
deriving DecidableEq, Repr

/-- Finds the file of a name: the name itself with a known extension, or the name with one appended. A file
with the very name but no known extension hides the others. -/
def locate (files : Table String) (name : String) : Found :=
  let parts := partsOf name
  match if namesFile name then contentAt? files parts else none with
  | some content =>
    match (extension? parts).bind FileForm.ofExtension? with
    | some form => .file form content
    | none => .missing
  | none =>
    if parts.getLast? = some upward then .missing
    else match contentAt? files (extend parts ".toml"), contentAt? files (extend parts ".json") with
      | some content, _ => .file .toml content
      | none, some content => .file .json content
      | none, none => .missing

end Files
end CatalogIndex
