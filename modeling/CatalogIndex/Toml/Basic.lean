import CatalogIndex.Json.Reader
import CatalogIndex.Text.Numeral
/-!
The lexical parts of TOML texts: blanks, comments, line ends, quoted texts and keys. A reader takes a part off
the front of a text or refuses it.
-/
namespace CatalogIndex.Toml

abbrev Reader (α : Type) := List Char → Option (α × List Char)

def isBlank (c : Char) : Bool := c == ' ' || c == '\t'

def skipBlanks (chars : List Char) : List Char := chars.dropWhile isBlank

/-- Control characters other than the tab, which may not stand in texts. -/
def isControl (c : Char) : Bool := (c.toNat < 0x20 && c != '\t') || c.toNat == 0x7F

def lineEnd? : List Char → Option (List Char)
  | '\n' :: rest => some rest
  | '\r' :: '\n' :: rest => some rest
  | _ => none

def skipComment : List Char → List Char
  | '#' :: rest => rest.dropWhile (!isControl ·)
  | chars => chars

/-- The rest of a line that holds nothing more; the text may end with it. -/
def endLine : Reader Unit := fun chars =>
  match skipComment (skipBlanks chars) with
  | [] => some ((), [])
  | chars => (lineEnd? chars).map fun rest => ((), rest)

def skipLines (fuel : Nat) (chars : List Char) : List Char :=
  match fuel with
  | 0 => chars
  | fuel + 1 =>
    let chars := skipComment (skipBlanks chars)
    match lineEnd? chars with
    | some rest => skipLines fuel rest
    | none => chars

/-! ### Quoted texts -/

def hexNumber (digits : List Char) : Option Nat :=
  digits.foldlM (fun total c => (Json.hexValue c).map fun digit => total * 16 + digit) 0

def codePoint (count : Nat) : Reader Char := fun chars => do
  let digits := chars.take count
  if digits.length < count then none
  let code ← hexNumber digits
  if code < 0xD800 ∨ (0xDFFF < code ∧ code < 0x110000) then some (Char.ofNat code, chars.drop count) else none

def escape : Reader Char
  | 'b' :: rest => some ('\x08', rest)
  | 't' :: rest => some ('\t', rest)
  | 'n' :: rest => some ('\n', rest)
  | 'f' :: rest => some ('\x0c', rest)
  | 'r' :: rest => some ('\r', rest)
  | '"' :: rest => some ('"', rest)
  | '\\' :: rest => some ('\\', rest)
  | 'u' :: rest => codePoint 4 rest
  | 'U' :: rest => codePoint 8 rest
  | _ => none

def basicBody (fuel : Nat) : Reader (List Char) := fun chars =>
  match fuel, chars with
  | _ + 1, '"' :: rest => some ([], rest)
  | fuel + 1, '\\' :: rest => do
    let (c, rest) ← escape rest
    let (later, rest) ← basicBody fuel rest
    return (c :: later, rest)
  | fuel + 1, c :: rest =>
    if isControl c then none else (basicBody fuel rest).map fun (later, rest) => (c :: later, rest)
  | _, _ => none

def literalBody : Reader (List Char)
  | '\x27' :: rest => some ([], rest)
  | c :: rest => if isControl c then none else (literalBody rest).map fun (later, rest) => (c :: later, rest)
  | [] => none

/-- The marks at the front, and what they close: three of them end a text, and up to two more belong to it. -/
def closing? (mark : Char) (chars : List Char) : Option (List Char × List Char) :=
  let run := (chars.takeWhile (· == mark)).length
  if run < 3 then none
  else
    let inside := min (run - 3) 2
    some (List.replicate inside mark, chars.drop (inside + 3))

def joinLines (fuel : Nat) (chars : List Char) : List Char :=
  match fuel with
  | 0 => chars
  | fuel + 1 =>
    let chars := skipBlanks chars
    match lineEnd? chars with
    | some rest => joinLines fuel rest
    | none => chars

/-- The text of several lines up to three marks; a line end is read as a line feed. -/
def linesBody (mark : Char) (fuel : Nat) : Reader (List Char) := fun chars =>
  match fuel with
  | 0 => none
  | fuel + 1 =>
    match closing? mark chars with
    | some (inside, rest) => some (inside, rest)
    | none =>
      match lineEnd? chars, chars with
      | some rest, _ => (linesBody mark fuel rest).map fun (later, rest) => ('\n' :: later, rest)
      | none, '\\' :: rest =>
        if mark = '\x27' then (linesBody mark fuel rest).map fun (later, rest) => ('\\' :: later, rest)
        else if (lineEnd? (skipBlanks rest)).isSome then linesBody mark fuel (joinLines rest.length rest)
        else do
          let (c, rest) ← escape rest
          let (later, rest) ← linesBody mark fuel rest
          return (c :: later, rest)
      | none, c :: rest =>
        if isControl c then none else (linesBody mark fuel rest).map fun (later, rest) => (c :: later, rest)
      | none, [] => none

/-- A line end right after the opening marks does not belong to the text. -/
def dropFirstLineEnd (chars : List Char) : List Char := (lineEnd? chars).getD chars

def lineText : Reader (List Char)
  | '"' :: rest => basicBody (rest.length + 1) rest
  | '\x27' :: rest => literalBody rest
  | _ => none

def quoted : Reader (List Char)
  | '"' :: '"' :: '"' :: rest => linesBody '"' (rest.length + 1) (dropFirstLineEnd rest)
  | '\x27' :: '\x27' :: '\x27' :: rest => linesBody '\x27' (rest.length + 1) (dropFirstLineEnd rest)
  | chars => lineText chars

/-! ### Keys -/

def isBareKeyChar (c : Char) : Bool := c.isAlphanum || c == '_' || c == '-'

def simpleKey : Reader String := fun chars =>
  let bare := chars.takeWhile isBareKeyChar
  if bare ≠ [] then some (String.ofList bare, chars.drop bare.length)
  else (lineText chars).map fun (text, rest) => (String.ofList text, rest)

/-- The tables that a key may lead through with the last part, and the brackets that may lie inside one another. -/
def maxDepth : Nat := 79

def keyWithin (depth : Nat) : Reader (List String) := fun chars =>
  match depth with
  | 0 => none
  | depth + 1 => do
    let (first, chars) ← simpleKey (skipBlanks chars)
    match skipBlanks chars with
    | '.' :: rest =>
      let (later, rest) ← keyWithin depth rest
      return (first :: later, rest)
    | chars => return ([first], chars)

def key : Reader (List String) := keyWithin maxDepth

end CatalogIndex.Toml
