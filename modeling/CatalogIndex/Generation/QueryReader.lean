import CatalogIndex.Generation.Query
import CatalogIndex.Text.Blank
/-!
Reading queries. A query is a row of clauses, all of them joined by `AND` and `OR`, of which `AND` binds tighter, or
none. A clause is `*`, or a word, with or without the name of a column or field in front. A backslash takes the
meaning from the character after it.
-/
namespace CatalogIndex.Query

def isGap (c : Char) : Bool := c == ' ' || c == '\t' || c == '\n' || c == '\r'

def skipGap (chars : List Char) : List Char := chars.dropWhile isGap

/-! ### Words and names -/

def endsWord (c : Char) : Bool :=
  Blank.isBlank c || c == '^' || c == '\x60' || c == ':' || c == '\x7b' || c == '\x7d' || c == '"' || c == '\x27' ||
    c == '[' || c == ']' || c == '(' || c == ')' || c == '\\'

def endsName (c : Char) : Bool :=
  c == '+' || c == '^' || c == '\x60' || c == ':' || c == '\x7b' || c == '\x7d' || c == '"' || c == '\x27' ||
    c == '[' || c == ']' || c == '(' || c == ')' || c == '!' || c == '\\' || c == '*' || c == ' '

/-- What a character after a backslash stands for: itself if it would have a meaning, else both. -/
def escaped (c : Char) : List Char := if endsWord c || c == '-' then [c] else ['\\', c]

def wordChars : List Char → List Char × List Char
  | '\\' :: c :: rest =>
    let (later, rest) := wordChars rest
    (escaped c ++ later, rest)
  | c :: rest =>
    if endsWord c then ([], c :: rest)
    else
      let (later, rest) := wordChars rest
      (c :: later, rest)
  | [] => ([], [])

def keywords : List (List Char) := ["AND".toList, "OR".toList, "NOT".toList, "IN".toList]

def word? (chars : List Char) : Option (List Char × List Char) :=
  if chars.head? = some '-' then none
  else
    let (word, rest) := wordChars chars
    if word = [] ∨ word ∈ keywords then none else some (word, rest)

def negative? : List Char → Option (List Char × List Char)
  | '-' :: rest =>
    let whole := rest.takeWhile Numeral.isDigit
    let after := rest.dropWhile Numeral.isDigit
    if whole = [] then none
    else match after with
      | '.' :: places =>
        let fraction := places.takeWhile Numeral.isDigit
        if fraction = [] then some ('-' :: whole, after)
        else some ('-' :: whole ++ '.' :: fraction, places.dropWhile Numeral.isDigit)
      | _ => some ('-' :: whole, after)
  | _ => none

def nameChars : List Char → List Char × List Char
  | '\\' :: c :: rest =>
    if endsName c then
      let (later, rest) := nameChars rest
      (c :: later, rest)
    else ([], '\\' :: c :: rest)
  | c :: rest =>
    if endsName c then ([], c :: rest)
    else
      let (later, rest) := nameChars rest
      (c :: later, rest)
  | [] => ([], [])

def name? (chars : List Char) : Option (List Char × List Char) :=
  let (name, rest) := nameChars chars
  if name = [] ∨ chars.head? = some '-' then none
  else match skipGap rest with
    | ':' :: rest => some (name, skipGap rest)
    | _ => none

def afterPattern? : List Char → Option (List Char)
  | '\\' :: '/' :: rest => afterPattern? rest
  | '/' :: rest => some rest
  | _ :: rest => afterPattern? rest
  | [] => none

def isPattern : List Char → Bool
  | '/' :: first :: rest =>
    first != '/' && (afterPattern? (first :: rest)).any fun after => after.head?.all fun c => isGap c || c == ')'
  | _ => false

/-! ### Clauses -/

/-- Cuts a name at its first point that has no backslash in front. -/
def cutName : List Char → List Char × Option (List Char)
  | '\\' :: c :: rest =>
    let (head, later) := cutName rest
    ('\\' :: c :: head, later)
  | '.' :: rest => ([], some rest)
  | c :: rest =>
    let (head, later) := cutName rest
    (c :: head, later)
  | [] => ([], none)

/-- The stored name that a name stands for. A point leads into what is stored under the name before it, which is
told apart from a point in a name. -/
def storedName : List Char → List Char
  | '\\' :: c :: rest => c :: storedName rest
  | ['\\'] => []
  | '.' :: rest => '\x01' :: storedName rest
  | c :: rest => c :: storedName rest
  | [] => []

/-- The clause for a name. The identity columns hold nothing that a point could lead into. -/
def ofName? (name : List Char) (text : String) : Option Query :=
  let (head, later) := cutName name
  let head := String.ofList head
  let inside (name : List Char) : Query := ofField (String.ofList (storedName name)) text
  if head = Stored.fieldsColumn then some (inside (later.getD []))
  else if head = Document.idField then if later.isNone then some (id text) else none
  else if head = Document.namespaceField then if later.isNone then some (nameSpace text) else none
  else if head = Document.itemIdField then if later.isNone then (integer? text).map itemId else none
  else some (inside name)

/-- The clause for a word without a name: an identity column, or the field without a name. -/
def ofWord (text : String) : Query := either (either (id text) (nameSpace text)) (ofField "" text)

def clause? (chars : List Char) : Option (Query × List Char) :=
  match chars with
  | '*' :: rest => some (all, rest)
  | _ =>
    let named := name? chars
    let content := (named.map (·.2)).getD chars
    if content.head? = some '*' ∨ content.head? = some '<' ∨ content.head? = some '>' ∨ isPattern content then none
    else do
      let (text, rest) ← (negative? content).or (word? content)
      let text := String.ofList text
      match named with
      | some (name, _) => return (← ofName? name text, rest)
      | none => if content.head? = some '-' ∨ content.head? = some '+' then none else return (ofWord text, rest)

/-! ### Rows of clauses -/

inductive Joint where
  | and
  | or
deriving DecidableEq, Repr

def joint : List Char → Option Joint × List Char
  | 'A' :: 'N' :: 'D' :: ' ' :: rest => (some .and, skipGap rest)
  | 'O' :: 'R' :: ' ' :: rest => (some .or, skipGap rest)
  | chars => (none, chars)

def clauses? (fuel : Nat) (chars : List Char) : Option (List (Option Joint × Query)) :=
  match fuel, chars with
  | _, [] => some []
  | 0, _ => none
  | fuel + 1, chars => do
    let (joined, chars) := joint chars
    let (query, rest) ← clause? chars
    let later ← clauses? fuel (skipGap rest)
    return (joined, query) :: later

/-- What a row of clauses comes to: alternatives of clauses joined by `AND`, the first of which is not closed. -/
def join (current : Query) : List (Option Joint × Query) → Query
  | [] => current
  | (some .and, query) :: rest => join (both current query) rest
  | (_, query) :: rest => either current (join query rest)

/-- Reads a query; an empty one has nothing to look up. -/
def read? (text : String) : Option Query := do
  let chars := skipGap text.toList
  if chars = [] then return nothing
  let (first, rest) ← clause? chars
  let later ← clauses? rest.length (skipGap rest)
  let joined := later.countP fun entry => entry.1.isSome
  if (rest.head?.any (!isGap ·)) ∨ (joined ≠ 0 ∧ joined ≠ later.length) then none
  else return join first later

def parse (text : String) : Except SearchError Query :=
  match read? text with
  | some query => .ok query
  | none => .error (.queryParse ("Syntax Error: " ++ text))

end CatalogIndex.Query
