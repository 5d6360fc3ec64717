import CatalogIndex.Json.Tree
import CatalogIndex.Toml.Scalar
/-!
TOML texts as JSON trees. Every table is defined once: by a header, by the keys that lead through it, or in
braces; what is in braces stays closed. A table whose first member has the name kept for dates and times is the date
or time that the text of this member stands for.
-/
namespace CatalogIndex.Toml

/-- How a table came about. -/
inductive Origin where
  /-- A header names a table below it. -/
  | implied
  | header
  /-- A key with points leads through it. -/
  | dotted
deriving DecidableEq, Repr

inductive Node where
  | value (value : Json)
  | moment (text : String)
  | table (origin : Origin) (members : List (String × Node))
  /-- The tables of an array, the last of which is open. -/
  | tables (elements : List (List (String × Node)))

namespace Node

def momentName : String := "$__toml_private_datetime"

/-- The first member of a table, if it has the name kept for dates and times. -/
def marked? : List (String × Node) → Option Node
  | (name, node) :: _ => if name = momentName then some node else none
  | [] => none

def momentOfText? : Node → Option Json
  | value (.text text) => (moment? .inText text.toList).map fun text => .text (String.ofList text)
  | _ => none

mutual

/-- The tree of a part; there is none for a table that is to stand for a date or time and does not. -/
def toJson? : Node → Option Json
  | value json => some json
  | moment text => some (.text text)
  | table _ members =>
    match marked? members with
    | some node => node.momentOfText?
    | none => (toJsonMembers? members).map .object
  | tables elements => (toJsonTables? elements).map .array

def toJsonMembers? : List (String × Node) → Option (List (String × Json))
  | [] => some []
  | (name, node) :: rest => do return (name, ← node.toJson?) :: (← toJsonMembers? rest)

def toJsonTables? : List (List (String × Node)) → Option (List Json)
  | [] => some []
  | members :: rest => do
    let first ← match marked? members with
      | some node => node.momentOfText?
      | none => (toJsonMembers? members).map .object
    return first :: (← toJsonTables? rest)

end

def ofScalar : Scalar → Node
  | .plain json => value json
  | .moment text => moment text

end Node

abbrev Members := List (String × Node)

namespace Members

def find? (name : String) : Members → Option Node
  | [] => none
  | (other, node) :: rest => if name = other then some node else find? name rest

def put (name : String) (node : Node) : Members → Members
  | [] => [(name, node)]
  | (other, kept) :: rest => if name = other then (name, node) :: rest else (other, kept) :: put name node rest

/-- Sets a key. It may lead through tables that keys have made, but not end in one that a header implies. -/
def assign (content : Node) : List String → Members → Option Members
  | [], _ => none
  | [name], members =>
    match find? name members with
    | some _ => none
    | none => some (members ++ [(name, content)])
  | name :: second :: rest, members =>
    match find? name members with
    | none => (assign content (second :: rest) []).map fun inner => members ++ [(name, .table .dotted inner)]
    | some (.table .dotted inner) =>
      (assign content (second :: rest) inner).map fun inner => put name (.table .dotted inner) members
    | some (.table .implied inner) =>
      if rest = [] then none
      else (assign content (second :: rest) inner).map fun inner => put name (.table .implied inner) members
    | some (.tables elements) =>
      match elements.getLast?, rest with
      | some inner, _ :: _ => (assign content (second :: rest) inner).map fun inner =>
        put name (.tables (elements.dropLast ++ [inner])) members
      | _, _ => none
    | some _ => none

/-- Works on the table that a header path leads to; tables on the way that are missing are implied. -/
def descend (work : Members → Option Members) : List String → Members → Option Members
  | [], members => work members
  | name :: rest, members =>
    match find? name members with
    | none => (descend work rest []).map fun inner => members ++ [(name, .table .implied inner)]
    | some (.table origin inner) =>
      (descend work rest inner).map fun inner => put name (.table origin inner) members
    | some (.tables elements) =>
      match elements.getLast? with
      | some inner =>
        (descend work rest inner).map fun inner => put name (.tables (elements.dropLast ++ [inner])) members
      | none => none
    | some (.value _) => none
    | some (.moment _) => none

def openTable (name : String) (members : Members) : Option Members :=
  match find? name members with
  | none => some (members ++ [(name, .table .header [])])
  | some (.table .implied inner) => some (put name (.table .header inner) members)
  | some _ => none

def appendTable (name : String) (members : Members) : Option Members :=
  match find? name members with
  | none => some (members ++ [(name, .tables [[]])])
  | some (.tables elements) => some (put name (.tables (elements ++ [[]])) members)
  | some _ => none

end Members

def splitLast (path : List String) : Option (List String × String) :=
  path.getLast?.map fun last => (path.dropLast, last)

/-! ### Reading -/

mutual

def value (fuel depth : Nat) : Reader Node := fun chars =>
  match fuel with
  | 0 => none
  | fuel + 1 =>
    match chars, depth with
    | '[' :: rest, depth + 1 => (items fuel depth rest).map fun (items, rest) => (.value (.array items), rest)
    | '\x7b' :: rest, depth + 1 =>
      match skipBlanks rest with
      | '\x7d' :: rest => some (.value (.object []), rest)
      | rest => do
        let (members, rest) ← inlineMembers fuel depth [] rest
        return (.value (← (Node.table .header members).toJson?), rest)
    | '"' :: _, _ => (quoted chars).map fun (text, rest) => (.value (.text (String.ofList text)), rest)
    | '\x27' :: _, _ => (quoted chars).map fun (text, rest) => (.value (.text (String.ofList text)), rest)
    | chars, _ => (scalar chars).map fun (found, rest) => (.ofScalar found, rest)
termination_by fuel

def items (fuel depth : Nat) : Reader (List Json) := fun chars =>
  match fuel with
  | 0 => none
  | fuel + 1 =>
    match skipLines chars.length chars with
    | ']' :: rest => some ([], rest)
    | chars => do
      let (node, chars) ← value fuel depth chars
      let item ← node.toJson?
      match skipLines chars.length chars with
      | ',' :: rest =>
        let (later, rest) ← items fuel depth rest
        return (item :: later, rest)
      | ']' :: rest => return ([item], rest)
      | _ => none
termination_by fuel

def inlineMembers (fuel depth : Nat) (members : Members) : Reader Members := fun chars =>
  match fuel with
  | 0 => none
  | fuel + 1 => do
    let (path, chars) ← key chars
    let ((), chars) ← mark? '=' (skipBlanks chars)
    let (content, chars) ← value fuel depth (skipBlanks chars)
    let members ← Members.assign content path members
    match skipBlanks chars with
    | ',' :: rest => inlineMembers fuel depth members rest
    | '\x7d' :: rest => return (members, rest)
    | _ => none
termination_by fuel

end

/-- One line or entry of a document: the document so far and the path of the open table go along. -/
def entry (fuel : Nat) (document : Members) (current : List String) : Reader (Members × List String) := fun chars =>
  match chars with
  | '[' :: '[' :: rest => do
    let (path, rest) ← key rest
    let ((), rest) ← mark? ']' rest
    let ((), rest) ← mark? ']' rest
    let (way, last) ← splitLast path
    let document ← Members.descend (Members.appendTable last) way document
    return ((document, path), rest)
  | '[' :: rest => do
    let (path, rest) ← key rest
    let ((), rest) ← mark? ']' rest
    let (way, last) ← splitLast path
    let document ← Members.descend (Members.openTable last) way document
    return ((document, path), rest)
  | chars => do
    let (path, rest) ← key chars
    let ((), rest) ← mark? '=' rest
    let (content, rest) ← value fuel maxDepth (skipBlanks rest)
    let document ← Members.descend (Members.assign content path) current document
    return ((document, current), rest)

def entries (fuel : Nat) (document : Members) (current : List String) (chars : List Char) : Option Members :=
  match fuel with
  | 0 => none
  | fuel + 1 =>
    match skipLines chars.length chars with
    | [] => some document
    | chars => do
      let ((document, current), rest) ← entry (2 * chars.length + 2) document current chars
      let ((), rest) ← endLine rest
      entries fuel document current rest

def parse (text : String) : Option Json := do
  let chars := text.toList
  match ← (Node.table .header (← entries (chars.length + 1) [] [] chars)).toJson? with
  | .object members => return .object members
  | _ => none

end CatalogIndex.Toml
