import CatalogIndex.Json.Tree
import CatalogIndex.Number.Scaling
import CatalogIndex.Text.Numeral
/-!
Reading JSON texts. Every reader takes a part off the front of a text; a text may nest arrays and objects at
most 127 deep, save in the values that are skipped unread.
-/
namespace CatalogIndex.Json

inductive Fault where
  /-- The text is not JSON, or nests too deep. -/
  | malformed
  /-- The text is JSON of the wrong shape; what was expected is said where the rule has words for it. -/
  | unexpected (message : Option String)
deriving DecidableEq, Repr

abbrev Reader (α : Type) := List Char → Except Fault (α × List Char)

/-- The arrays and objects that a text may have open at once. -/
def maxDepth : Nat := 127

def isSpace (c : Char) : Bool := c == ' ' || c == '\n' || c == '\t' || c == '\r'

def skipSpace (chars : List Char) : List Char := chars.dropWhile isSpace

def literal (word : List Char) : Reader Unit := fun chars =>
  match word, chars with
  | [], rest => .ok ((), rest)
  | expected :: word, c :: rest => if c = expected then literal word rest else .error .malformed
  | _ :: _, [] => .error .malformed

/-! ### Texts -/

def hexValue (c : Char) : Option Nat :=
  if '0' ≤ c && c ≤ '9' then some (c.toNat - 48)
  else if 'a' ≤ c && c ≤ 'f' then some (c.toNat - 87)
  else if 'A' ≤ c && c ≤ 'F' then some (c.toNat - 55)
  else none

def hexUnit (a b c d : Char) : Option Nat := do
  return (← hexValue a) * 4096 + (← hexValue b) * 256 + (← hexValue c) * 16 + (← hexValue d)

def simpleEscape : Char → Option Char
  | '"' => some '"'
  | '\\' => some '\\'
  | '/' => some '/'
  | 'b' => some '\x08'
  | 'f' => some '\x0c'
  | 'n' => some '\n'
  | 'r' => some '\r'
  | 't' => some '\t'
  | _ => none

def isHighSurrogate (unit : Nat) : Bool := 0xD800 ≤ unit && unit ≤ 0xDBFF

def isLowSurrogate (unit : Nat) : Bool := 0xDC00 ≤ unit && unit ≤ 0xDFFF

def joined (high low : Nat) : Char := Char.ofNat (0x10000 + (high - 0xD800) * 1024 + (low - 0xDC00))

def prepend (c : Char) : Except Fault (List Char × List Char) → Except Fault (List Char × List Char)
  | .ok (chars, rest) => .ok (c :: chars, rest)
  | .error fault => .error fault

/-- The text up to its closing quote; surrogates have to come in pairs. -/
def textBody : Reader (List Char)
  | [] => .error .malformed
  | '"' :: rest => .ok ([], rest)
  | '\\' :: 'u' :: a :: b :: c :: d :: rest =>
    match hexUnit a b c d with
    | none => .error .malformed
    | some unit =>
      if isHighSurrogate unit then
        match rest with
        | '\\' :: 'u' :: e :: f :: g :: h :: rest =>
          match hexUnit e f g h with
          | none => .error .malformed
          | some low =>
            if isLowSurrogate low then prepend (joined unit low) (textBody rest) else .error .malformed
        | _ => .error .malformed
      else if isLowSurrogate unit then .error .malformed
      else prepend (Char.ofNat unit) (textBody rest)
  | '\\' :: letter :: rest =>
    match simpleEscape letter with
    | some c => prepend c (textBody rest)
    | none => .error .malformed
  | c :: rest => if c.toNat < 0x20 ∨ c = '\\' then .error .malformed else prepend c (textBody rest)

/-- Skips a text up to its closing quote; here four hexadecimal digits are enough for an escape. -/
def skipText : Reader Unit
  | [] => .error .malformed
  | '"' :: rest => .ok ((), rest)
  | '\\' :: 'u' :: a :: b :: c :: d :: rest =>
    if (hexUnit a b c d).isSome then skipText rest else .error .malformed
  | '\\' :: letter :: rest => if (simpleEscape letter).isSome then skipText rest else .error .malformed
  | c :: rest => if c.toNat < 0x20 ∨ c = '\\' then .error .malformed else skipText rest

/-! ### Numbers -/

structure NumberParts where
  whole : List Char
  fraction : Option (List Char)
  exponent : Option Int

def wholeDigits : Reader (List Char) := fun chars =>
  let run := chars.takeWhile Numeral.isDigit
  let rest := chars.drop run.length
  match run with
  | [] => .error .malformed
  | '0' :: _ :: _ => .error .malformed
  | _ => .ok (run, rest)

def fractionDigits : Reader (Option (List Char))
  | '.' :: rest =>
    let run := rest.takeWhile Numeral.isDigit
    if run = [] then .error .malformed else .ok (some run, rest.drop run.length)
  | chars => .ok (none, chars)

def exponentDigits (negative : Bool) : Reader (Option Int) := fun chars =>
  let run := chars.takeWhile Numeral.isDigit
  if run = [] then .error .malformed
  else .ok (some (if negative then -(Numeral.value run : Int) else Numeral.value run), chars.drop run.length)

def exponentPart : Reader (Option Int)
  | c :: rest =>
    if c = 'e' ∨ c = 'E' then
      match rest with
      | '-' :: rest => exponentDigits true rest
      | '+' :: rest => exponentDigits false rest
      | rest => exponentDigits false rest
    else .ok (none, c :: rest)
  | [] => .ok (none, [])

def numberParts : Reader NumberParts := fun chars => do
  let (whole, chars) ← wholeDigits chars
  let (fraction, chars) ← fractionDigits chars
  let (exponent, chars) ← exponentPart chars
  return (⟨whole, fraction, exponent⟩, chars)

/-- The value of a number; one too large for a decimal is refused, and a negative zero is a decimal. -/
def numberValue (negative : Bool) (parts : NumberParts) : Except Fault Json :=
  let fraction := parts.fraction.getD []
  let digits := Numeral.value (parts.whole ++ fraction)
  let signed : Int := if negative then -(digits : Int) else digits
  if parts.fraction.isNone && parts.exponent.isNone && !(negative && digits == 0) && fitsWord signed then
    .ok (.integer signed)
  else
    match Binary64.ofDigits? negative parts.whole fraction (parts.exponent.getD 0) with
    | some x => .ok (.decimal x)
    | none => .error .malformed

def unsigned (negative : Bool) : Reader Json := fun chars => do
  let (parts, chars) ← numberParts chars
  return (← numberValue negative parts, chars)

def number : Reader Json
  | '-' :: rest => unsigned true rest
  | chars => unsigned false chars

def skipNumber : Reader Unit
  | '-' :: rest => (numberParts rest).map fun (_, rest) => ((), rest)
  | chars => (numberParts chars).map fun (_, rest) => ((), rest)

/-! ### Values -/

def nextItem (isFirst : Bool) : Reader Bool := fun chars =>
  match skipSpace chars with
  | [] => .error .malformed
  | ']' :: rest => .ok (false, ']' :: rest)
  | c :: rest =>
    if isFirst then .ok (true, c :: rest)
    else if c = ',' then
      match skipSpace rest with
      | [] => .error .malformed
      | ']' :: _ => .error .malformed
      | rest => .ok (true, rest)
    else .error .malformed

def nextMember (isFirst : Bool) : Reader Bool := fun chars =>
  match skipSpace chars with
  | [] => .error .malformed
  | '\x7d' :: rest => .ok (false, '\x7d' :: rest)
  | c :: rest =>
    if isFirst then (if c = '"' then .ok (true, c :: rest) else .error .malformed)
    else if c = ',' then
      match skipSpace rest with
      | '"' :: rest => .ok (true, '"' :: rest)
      | _ => .error .malformed
    else .error .malformed

def expect (c : Char) : Reader Unit := fun chars =>
  match skipSpace chars with
  | first :: rest => if first = c then .ok ((), rest) else .error .malformed
  | [] => .error .malformed

def memberName : Reader String
  | '"' :: rest => do
    let (name, rest) ← textBody rest
    let ((), rest) ← expect ':' rest
    return (String.ofList name, rest)
  | _ => .error .malformed

mutual

/-- A value that opens at most `depth` arrays and objects; `fuel` bounds the steps and is never short when it
is twice the length of the text. -/
def value (fuel depth : Nat) : Reader Json := fun chars =>
  match fuel with
  | 0 => .error .malformed
  | fuel + 1 =>
    match skipSpace chars with
    | [] => .error .malformed
    | 'n' :: rest => do let ((), rest) ← literal ['u', 'l', 'l'] rest; return (.null, rest)
    | 't' :: rest => do let ((), rest) ← literal ['r', 'u', 'e'] rest; return (.bool true, rest)
    | 'f' :: rest => do let ((), rest) ← literal ['a', 'l', 's', 'e'] rest; return (.bool false, rest)
    | '"' :: rest => do let (chars, rest) ← textBody rest; return (.text (String.ofList chars), rest)
    | '[' :: rest =>
      match depth with
      | 0 => .error .malformed
      | depth + 1 => do let (items, rest) ← items fuel depth true rest; return (.array items, rest)
    | '\x7b' :: rest =>
      match depth with
      | 0 => .error .malformed
      | depth + 1 => do let (members, rest) ← members fuel depth true rest; return (.object members, rest)
    | chars => number chars

def items (fuel depth : Nat) (isFirst : Bool) : Reader (List Json) := fun chars =>
  match fuel with
  | 0 => .error .malformed
  | fuel + 1 => do
    let (more, chars) ← nextItem isFirst chars
    if more then
      let (item, chars) ← value fuel depth chars
      let (rest, chars) ← items fuel depth false chars
      return (item :: rest, chars)
    else return ([], chars.tail)

def members (fuel depth : Nat) (isFirst : Bool) : Reader (List (String × Json)) := fun chars =>
  match fuel with
  | 0 => .error .malformed
  | fuel + 1 => do
    let (more, chars) ← nextMember isFirst chars
    if more then
      let (name, chars) ← memberName chars
      let (item, chars) ← value fuel depth chars
      let (rest, chars) ← members fuel depth false chars
      return ((name, item) :: rest, chars)
    else return ([], chars.tail)

end

def fuelFor (chars : List Char) : Nat := 2 * chars.length + 2

mutual

def skipValue (fuel : Nat) : Reader Unit := fun chars =>
  match fuel with
  | 0 => .error .malformed
  | fuel + 1 =>
    match skipSpace chars with
    | [] => .error .malformed
    | 'n' :: rest => literal ['u', 'l', 'l'] rest
    | 't' :: rest => literal ['r', 'u', 'e'] rest
    | 'f' :: rest => literal ['a', 'l', 's', 'e'] rest
    | '"' :: rest => skipText rest
    | '[' :: rest => skipItems fuel true rest
    | '\x7b' :: rest => skipMembers fuel true rest
    | chars => skipNumber chars

def skipItems (fuel : Nat) (isFirst : Bool) : Reader Unit := fun chars =>
  match fuel with
  | 0 => .error .malformed
  | fuel + 1 => do
    let (more, chars) ← nextItem isFirst chars
    if more then
      let ((), chars) ← skipValue fuel chars
      skipItems fuel false chars
    else return ((), chars.tail)

def skipMembers (fuel : Nat) (isFirst : Bool) : Reader Unit := fun chars =>
  match fuel with
  | 0 => .error .malformed
  | fuel + 1 => do
    let (more, chars) ← nextMember isFirst chars
    if more then
      let ((), chars) ← skipText chars.tail
      let ((), chars) ← expect ':' chars
      let ((), chars) ← skipValue fuel chars
      skipMembers fuel false chars
    else return ((), chars.tail)

end

def parse (text : String) : Except Fault Json := do
  let chars := text.toList
  let (tree, rest) ← value (fuelFor chars) maxDepth chars
  if skipSpace rest = [] then return tree else .error .malformed

end CatalogIndex.Json
