import CatalogIndex.Json.Reader
import CatalogIndex.Json.Writer
import CatalogIndex.Text.Quoted
/-!
Reading JSON texts as values of a known shape. A decoder stops at the first thing wrong, read from left to
right, so a value of the wrong kind is reported even when the text after it is not JSON. The exception is a
shape that is chosen by content: its text is read whole before the choice.
-/
namespace CatalogIndex.Json

/-- Reads a value of a known shape that may open at most `depth` arrays and objects. -/
abbrev Decoder (α : Type) := (depth : Nat) → Reader α

namespace Decoder

variable {α β : Type}

def unexpected (message : String) : Fault := .unexpected (some message)

def wrongKind (found expected : String) : Fault :=
  unexpected ("invalid type: " ++ found ++ ", expected " ++ expected)

def describeNumber : Json → String
  | .integer n => "integer `" ++ Numeral.ofInt n ++ "`"
  | .decimal x => "floating point `" ++ String.ofList (writeDecimal x) ++ "`"
  | _ => "number"

/-- The fault of a value that is not of the expected kind, told by its first character. -/
def mismatch (expected : String) (chars : List Char) : Fault :=
  let literal (word : List Char) (rest : List Char) (found : String) : Fault :=
    match literal word rest with
    | .ok _ => wrongKind found expected
    | .error fault => fault
  let number (read : Except Fault (Json × List Char)) : Fault :=
    match read with
    | .ok (value, _) => wrongKind (describeNumber value) expected
    | .error fault => fault
  match chars with
  | 'n' :: rest => literal ['u', 'l', 'l'] rest "null"
  | 't' :: rest => literal ['r', 'u', 'e'] rest "boolean `true`"
  | 'f' :: rest => literal ['a', 'l', 's', 'e'] rest "boolean `false`"
  | '"' :: rest =>
    match textBody rest with
    | .ok (chars, _) => wrongKind ("string " ++ Quoted.quote (String.ofList chars)) expected
    | .error fault => fault
  | '[' :: _ => wrongKind "sequence" expected
  | '\x7b' :: _ => wrongKind "map" expected
  | '-' :: rest => number (unsigned true rest)
  | c :: rest => if Numeral.isDigit c then number (unsigned false (c :: rest)) else .malformed
  | [] => .malformed

def textAs (expected : String) : Decoder String := fun _ chars =>
  match skipSpace chars with
  | '"' :: rest => do let (chars, rest) ← textBody rest; return (String.ofList chars, rest)
  | chars => .error (mismatch expected chars)

def text : Decoder String := textAs "a string"

def bool : Decoder Bool := fun _ chars =>
  match skipSpace chars with
  | 't' :: rest => do let ((), rest) ← literal ['r', 'u', 'e'] rest; return (true, rest)
  | 'f' :: rest => do let ((), rest) ← literal ['a', 'l', 's', 'e'] rest; return (false, rest)
  | chars => .error (mismatch "a boolean" chars)

def word : Decoder UInt64 := fun _ chars =>
  let ofNumber (read : Except Fault (Json × List Char)) : Except Fault (UInt64 × List Char) := do
    let (number, rest) ← read
    match number with
    | .integer n =>
      if 0 ≤ n then return (UInt64.ofNat n.toNat, rest)
      else throw (unexpected ("invalid value: " ++ describeNumber number ++ ", expected usize"))
    | number => throw (wrongKind (describeNumber number) "usize")
  match skipSpace chars with
  | '-' :: rest => ofNumber (unsigned true rest)
  | c :: rest =>
    if Numeral.isDigit c then ofNumber (unsigned false (c :: rest))
    else .error (mismatch "usize" (c :: rest))
  | [] => .error .malformed

def unit : Decoder Unit := fun _ chars =>
  match skipSpace chars with
  | 'n' :: rest => literal ['u', 'l', 'l'] rest
  | chars => .error (mismatch "unit" chars)

def optional (decoder : Decoder α) : Decoder (Option α) := fun depth chars =>
  match skipSpace chars with
  | 'n' :: rest => do let ((), rest) ← literal ['u', 'l', 'l'] rest; return (none, rest)
  | chars => do let (value, rest) ← decoder depth chars; return (some value, rest)

def manyItems (decoder : Decoder α) (fuel depth : Nat) (isFirst : Bool) : Reader (List α) := fun chars =>
  match fuel with
  | 0 => .error .malformed
  | fuel + 1 => do
    let (more, chars) ← nextItem isFirst chars
    if more then
      let (item, chars) ← decoder depth chars
      let (rest, chars) ← manyItems decoder fuel depth false chars
      return (item :: rest, chars)
    else return ([], chars.tail)

def many (decoder : Decoder α) : Decoder (List α) := fun depth chars =>
  match skipSpace chars with
  | '[' :: rest =>
    match depth with
    | 0 => .error .malformed
    | depth + 1 => manyItems decoder (fuelFor rest) depth true rest
  | chars => .error (mismatch "a sequence" chars)

def mapMembers (decoder : Decoder α) (fuel depth : Nat) (isFirst : Bool) : Reader (List (String × α)) :=
  fun chars =>
  match fuel with
  | 0 => .error .malformed
  | fuel + 1 => do
    let (more, chars) ← nextMember isFirst chars
    if more then
      let (name, chars) ← memberName chars
      let (item, chars) ← decoder depth chars
      let (rest, chars) ← mapMembers decoder fuel depth false chars
      return ((name, item) :: rest, chars)
    else return ([], chars.tail)

def map (decoder : Decoder α) : Decoder (List (String × α)) := fun depth chars =>
  match skipSpace chars with
  | '\x7b' :: rest =>
    match depth with
    | 0 => .error .malformed
    | depth + 1 => mapMembers decoder (fuelFor rest) depth true rest
  | chars => .error (mismatch "a map" chars)

def tree : Decoder Json := fun depth chars => value (fuelFor chars) depth chars

/-- A shape chosen by content: none of its variants fits when the choice fails. -/
def untagged (name : String) (choose : Json → Option α) : Decoder α := fun depth chars => do
  let (tree, rest) ← tree depth chars
  match choose tree with
  | some value => return (value, rest)
  | none => throw (unexpected ("data did not match any variant of untagged enum " ++ name))

/-! ### Enumerations -/

def oneOf (names : List String) : String :=
  let quoted := names.map fun name => "`" ++ name ++ "`"
  match quoted with
  | [] => "there are no variants"
  | [single] => "expected " ++ single
  | [left, right] => "expected " ++ left ++ " or " ++ right
  | quoted => "expected one of " ++ ", ".intercalate quoted

def variant (variants : List (String × α)) (name : String) : Except Fault α :=
  match variants.find? (fun entry => entry.1 == name) with
  | some entry => .ok entry.2
  | none => .error (unexpected ("unknown variant `" ++ name ++ "`, " ++ oneOf (variants.map (·.1))))

/-- One of several names, as a text or as an object that holds a null under the name. -/
def choice (variants : List (String × α)) : Decoder α := fun depth chars =>
  match skipSpace chars with
  | '"' :: rest => do
    let (name, rest) ← textBody rest
    return (← variant variants (String.ofList name), rest)
  | '\x7b' :: rest =>
    match depth with
    | 0 => .error .malformed
    | depth + 1 => do
      let (name, rest) ← textAs "variant identifier" depth rest
      let value ← variant variants name
      let ((), rest) ← expect ':' rest
      let ((), rest) ← unit depth rest
      let ((), rest) ← expect '\x7d' rest
      return (value, rest)
  | _ => .error .malformed

def choiceOfTree (variants : List (String × α)) : Json → Except Fault α
  | .text name => variant variants name
  | .object [(name, content)] => do
    let value ← variant variants name
    match content with
    | .null => return value
    | content => throw (wrongKind (describe content) "unit")
  | .object _ => .error (unexpected "invalid value: map, expected map with a single key")
  | other => .error (wrongKind (describe other) "string or map")
where
  describe : Json → String
    | .null => "null"
    | .bool true => "boolean `true`"
    | .bool false => "boolean `false`"
    | .text value => "string " ++ Quoted.quote value
    | .array _ => "sequence"
    | .object _ => "map"
    | number => describeNumber number

/-! ### Records -/

structure Slot (σ : Type) where
  name : String
  required : Bool
  isFilled : σ → Bool
  fill : σ → Decoder σ

def slot {σ : Type} (name : String) (required : Bool) (get : σ → Option α) (set : σ → α → σ)
    (decoder : Decoder α) : Slot σ :=
  ⟨name, required, fun record => (get record).isSome, fun record depth chars => do
    let (value, rest) ← decoder depth chars
    return (set record value, rest)⟩

structure Shape (σ : Type) where
  name : String
  slots : List (Slot σ)
  start : σ

namespace Shape

variable {σ : Type}

/-- The members of an object in any order: a repeated field is a fault, an unknown one is skipped. -/
def members (shape : Shape σ) (fuel depth : Nat) (isFirst : Bool) (record : σ) : Reader σ := fun chars =>
  match fuel with
  | 0 => .error .malformed
  | fuel + 1 => do
    let (more, chars) ← nextMember isFirst chars
    if more then
      let (name, chars) ← textAs "field identifier" depth chars
      match shape.slots.find? (fun slot => slot.name == name) with
      | some slot =>
        if slot.isFilled record then throw (unexpected ("duplicate field `" ++ name ++ "`"))
        let ((), chars) ← expect ':' chars
        let (record, chars) ← slot.fill record depth chars
        members shape fuel depth false record chars
      | none =>
        let ((), chars) ← expect ':' chars
        let ((), chars) ← skipValue (fuelFor chars) chars
        members shape fuel depth false record chars
    else return (record, chars.tail)

def missing (shape : Shape σ) (record : σ) : Option String :=
  (shape.slots.find? fun slot => slot.required && !slot.isFilled record).map (·.name)

/-- The items of an array, which are the fields in order; the last ones may be left out unless required. -/
def items (shape : Shape σ) (depth position : Nat) (slots : List (Slot σ)) (record : σ) : Reader σ :=
  fun chars =>
  match slots with
  | [] => do
    let ((), chars) ← expect ']' chars
    return (record, chars)
  | slot :: slots => do
    let (more, chars) ← nextItem (position == 0) chars
    if more then
      let (record, chars) ← slot.fill record depth chars
      items shape depth (position + 1) slots record chars
    else if slot.required then
      throw (unexpected ("invalid length " ++ Numeral.ofNat position ++ ", expected struct " ++ shape.name ++
        " with " ++ Numeral.ofNat shape.slots.length ++ " elements"))
    else items shape depth (position + 1) slots record chars

def decode (shape : Shape σ) : Decoder σ := fun depth chars =>
  match skipSpace chars with
  | '\x7b' :: rest =>
    match depth with
    | 0 => .error .malformed
    | depth + 1 => do
      let (record, rest) ← shape.members (fuelFor rest) depth true shape.start rest
      match shape.missing record with
      | some name => throw (unexpected ("missing field `" ++ name ++ "`"))
      | none => return (record, rest)
  | '[' :: rest =>
    match depth with
    | 0 => .error .malformed
    | depth + 1 => shape.items depth 0 shape.slots shape.start rest
  | chars => .error (mismatch ("struct " ++ shape.name) chars)

end Shape

def decode (decoder : Decoder α) (source : String) : Except Fault α := do
  let (value, rest) ← decoder maxDepth source.toList
  if skipSpace rest = [] then return value else throw .malformed

end Decoder
end CatalogIndex.Json
