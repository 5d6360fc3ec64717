import CatalogIndex.Text.Letters
/-!
The words of texts with their places, for look-ups that do not depend on punctuation or on the case of letters. Very
long words are not looked up, but keep their places.
-/
namespace CatalogIndex

structure PlacedWord where
  place : Nat
  word : String
deriving DecidableEq, Repr

namespace Words

/-- The word that is open at the front of a text, and the words after it. -/
def split : List Char → List Char × List (List Char)
  | [] => ([], [])
  | c :: rest =>
    let (current, later) := split rest
    if Letters.isAlphanumeric c then (c :: current, later)
    else ([], if current = [] then later else current :: later)

/-- The bytes from which on a word is too long to be looked up. -/
def tooLong : Nat := 40

def ofText (start : Nat) (text : String) : List PlacedWord :=
  let (first, later) := split text.toList
  let words := (if first = [] then later else first :: later).zipIdx start
  (words.filter fun (word, _) => (String.ofList word).utf8ByteSize < tooLong).map fun (word, place) =>
    ⟨place, String.ofList (word.flatMap Letters.lower)⟩

/-- The words of several texts in a row. A place is left free after each text. -/
def ofTexts (start : Nat) : List String → List PlacedWord
  | [] => []
  | text :: rest =>
    let words := ofText start text
    let next := (words.getLast?.map (·.place + 1)).getD start
    words ++ ofTexts (next + 1) rest

/-- Whether the wanted words stand among others with the same distances between them. -/
def occur (wanted words : List PlacedWord) : Bool :=
  match wanted with
  | [] => false
  | first :: later => words.any fun found =>
    found.word == first.word &&
      later.all fun next => words.contains ⟨found.place + (next.place - first.place), next.word⟩

end Words
end CatalogIndex
