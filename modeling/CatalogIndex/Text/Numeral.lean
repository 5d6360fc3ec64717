/-!
Decimal numerals. `value_digits` says that the numeral of a number reads back as that number, and
`digits_injective` that no two numbers share a numeral.
-/
namespace CatalogIndex.Numeral

def isDigit (c : Char) : Bool := '0' ≤ c && c ≤ '9'

def digitValue (c : Char) : Nat := c.toNat - 48

def digit (n : Nat) : Char := Char.ofNat (48 + n)

def value (chars : List Char) : Nat := chars.foldl (fun total c => total * 10 + digitValue c) 0

def digits (n : Nat) : List Char :=
  if n < 10 then [digit n] else digits (n / 10) ++ [digit (n % 10)]
termination_by n
decreasing_by omega

def signed (n : Int) : List Char :=
  if n < 0 then '-' :: digits n.natAbs else digits n.natAbs

def padded (width n : Nat) : List Char :=
  let numeral := digits n
  List.replicate (width - numeral.length) '0' ++ numeral

def ofNat (n : Nat) : String := String.ofList (digits n)

def ofInt (n : Int) : String := String.ofList (signed n)

def toNat? (chars : List Char) : Option Nat :=
  if chars ≠ [] ∧ chars.all isDigit then some (value chars) else none

theorem toNat_digit {n : Nat} (small : n < 10) : (digit n).toNat = 48 + n := by
  have := (by decide : ∀ n : Fin 10, (digit n.val).toNat = 48 + n.val)
  exact this ⟨n, small⟩

theorem isDigit_digit {n : Nat} (small : n < 10) : isDigit (digit n) = true := by
  have := (by decide : ∀ n : Fin 10, isDigit (digit n.val) = true)
  exact this ⟨n, small⟩

theorem digitValue_digit {n : Nat} (small : n < 10) : digitValue (digit n) = n := by
  rw [digitValue, toNat_digit small]; omega

theorem value_append_single (chars : List Char) (c : Char) :
    value (chars ++ [c]) = value chars * 10 + digitValue c := by simp [value]

@[simp] theorem value_digits (n : Nat) : value (digits n) = n := by
  fun_induction digits n with
  | case1 n small => simp [value, digitValue_digit small]
  | case2 n large ih =>
    rw [value_append_single, ih, digitValue_digit (by omega)]
    omega

theorem all_isDigit_digits (n : Nat) : (digits n).all isDigit = true := by
  fun_induction digits n with
  | case1 n small => simp [isDigit_digit small]
  | case2 n large ih => simp [List.all_append, ih, isDigit_digit (show n % 10 < 10 by omega)]

theorem digits_ne_nil (n : Nat) : digits n ≠ [] := by
  unfold digits; split <;> simp

@[simp] theorem toNat?_digits (n : Nat) : toNat? (digits n) = some n := by
  simp [toNat?, digits_ne_nil, all_isDigit_digits]

theorem digits_injective {left right : Nat} (same : digits left = digits right) : left = right := by
  have := congrArg value same
  simpa using this

end CatalogIndex.Numeral
