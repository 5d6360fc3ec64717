import CatalogIndex.Generation.Stored
import CatalogIndex.Number.Reading
import CatalogIndex.Text.Words
/-!
The queries of an on-disk generation and the stored documents that answer them. The identity columns are compared
exactly. In all other fields texts are looked up by their words, and numbers, truth values and timestamps by what the
text of the query reads as.
-/
namespace CatalogIndex

inductive Query where
  | all
  /-- A clause without anything to look up, which no document answers. -/
  | nothing
  | id (text : String)
  | nameSpace (text : String)
  | itemId (number : Int64)
  | field (name text : String)
  | and (left right : Query)
  | or (left right : Query)
deriving DecidableEq, Repr

namespace Query

/-- Both of two queries; what has nothing to look up does not count. -/
def both : Query → Query → Query
  | nothing, right => right
  | left, nothing => left
  | left, right => and left right

def either : Query → Query → Query
  | nothing, right => right
  | left, nothing => left
  | left, right => or left right

/-! ### What a text looks for -/

def wholeNumber? (text : String) : Option Int :=
  match text.toList with
  | '-' :: digits => (Numeral.toNat? digits).map fun n => -(n : Int)
  | '+' :: digits => (Numeral.toNat? digits).map fun n => (n : Int)
  | digits => (Numeral.toNat? digits).map fun n => (n : Int)

def integer? (text : String) : Option Int64 :=
  (wholeNumber? text).bind fun n => if Value.fitsInteger n then some (Int64.ofInt n) else none

/-- The one value other than a text that a text stands for, if any: a timestamp, whole number, decimal or truth
value, tried in this order. -/
inductive Exact where
  | timestamp (count : Int64)
  | whole (number : Int)
  | decimal (value : Binary64)
  | flag (value : Bool)

namespace Exact

def ofText? (text : String) : Option Exact :=
  ((Timestamp.ofText? text).map timestamp).or <|
    (((wholeNumber? text).filter Json.fitsWord).map whole).or <|
      ((Binary64.ofText? text).map decimal).or <|
        if text = "true" then some (flag true) else if text = "false" then some (flag false) else none

/-- Whether a stored value is the wanted one. Timestamps are compared by their whole seconds. -/
def isHeld (wanted : Exact) (content : Json) : Bool :=
  match wanted, content with
  | timestamp count, .text text => ((Timestamp.ofText? text).map Timestamp.wholeSeconds) == some (Timestamp.wholeSeconds count)
  | whole number, .integer n => n == number
  | decimal value, .decimal x => x == value
  | flag value, .bool b => b == value
  | _, _ => false

end Exact

def plainText? : Json → Option String
  | .text text => if (Timestamp.ofText? text).isNone then some text else none
  | _ => none

/-- Whether values hold what a text looks for: its words, with the distances between them, or the value that it
stands for. -/
def answer (text : String) (contents : List Json) : Bool :=
  Words.occur (Words.ofText 0 text) (Words.ofTexts 0 (contents.filterMap plainText?)) ||
    (Exact.ofText? text).any fun wanted => contents.any wanted.isHeld

def ofField (name text : String) : Query :=
  if (Words.ofText 0 text).isEmpty && (Exact.ofText? text).isNone then nothing else field name text

/-! ### Answering -/

/-- The stored values of a field. A name with a null character cannot be looked up. -/
def valuesOf (stored : Stored) (name : String) : List Json :=
  match stored.fields with
  | .object members =>
    if name.toList.contains '\x00' then [] else ((Table.seek name members).map Stored.valuesOf).getD []
  | _ => []

def holds (stored : Stored) : Query → Bool
  | all => true
  | nothing => false
  | id text => stored.id == text
  | nameSpace text => stored.nameSpace == text
  | itemId number => stored.itemId == number
  | field name text => answer text (valuesOf stored name)
  | and left right => left.holds stored && right.holds stored
  | or left right => left.holds stored || right.holds stored

end Query
end CatalogIndex
