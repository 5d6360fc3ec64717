import CatalogIndex.Text.Blank
import CatalogIndex.Text.Numeral
import Mathlib.Algebra.Group.Nat.Defs
/-!
Runs of digits in a text. A reader that takes digits as long as there are any gets back the numeral that was written,
if what follows does not go on with a digit.
-/
namespace CatalogIndex.Numeral

def Stops (rest : List Char) : Prop := ∀ c ∈ rest.head?, isDigit c = false

theorem stops_nil : Stops [] := fun _ member => nomatch member

theorem stops_cons {c : Char} (other : isDigit c = false) (rest : List Char) : Stops (c :: rest) := by
  intro first member
  cases Option.mem_some.1 member
  exact other

theorem takeWhile_append {run rest : List Char} (digits : run.all isDigit = true) (stops : Stops rest) :
    (run ++ rest).takeWhile isDigit = run := by
  have ends : rest.takeWhile isDigit = [] := by
    cases rest with
    | nil => rfl
    | cons c later => exact List.takeWhile_cons_of_neg (by simp [stops c rfl])
  rw [List.takeWhile_append_of_pos (List.all_eq_true.1 digits), ends, List.append_nil]

theorem isDigit_iff {c : Char} : isDigit c = true ↔ 48 ≤ c.toNat ∧ c.toNat ≤ 57 := by
  unfold isDigit
  rw [Bool.and_eq_true, decide_eq_true_eq, decide_eq_true_eq]
  exact Iff.rfl

theorem isBlank_of_isDigit {c : Char} (isDigit : isDigit c = true) : Blank.isBlank c = false := by
  obtain ⟨least, most⟩ := isDigit_iff.1 isDigit
  unfold Blank.isBlank
  simp only [Bool.or_eq_false_iff, Bool.and_eq_false_iff, decide_eq_false_iff_not, beq_eq_false_iff_ne, ne_eq]
  omega

theorem skip_of_digit {c : Char} (isDigit : isDigit c = true) (rest : List Char) :
    Blank.skip (c :: rest) = c :: rest := by
  unfold Blank.skip
  rw [List.dropWhile_cons_of_neg (by simp [isBlank_of_isDigit isDigit])]

theorem skip_of_run {run rest : List Char} (digits : run.all isDigit = true) (some : run ≠ []) :
    Blank.skip (run ++ rest) = run ++ rest := by
  cases run with
  | nil => exact absurd rfl some
  | cons c later => exact skip_of_digit (List.all_eq_true.1 digits c List.mem_cons_self) _

/-! ### What a run of digits stands for -/

theorem foldl_digits (start : Nat) (chars : List Char) :
    chars.foldl (fun total c => total * 10 + digitValue c) start = start * 10 ^ chars.length + value chars := by
  unfold value
  induction chars generalizing start with
  | nil => simp
  | cons c rest ih =>
    simp only [List.foldl_cons, List.length_cons]
    rw [ih, ih (0 * 10 + digitValue c), Nat.pow_succ, Nat.add_mul, Nat.zero_mul, Nat.zero_add, Nat.mul_assoc,
      Nat.mul_comm 10, Nat.add_assoc]

theorem value_append (left right : List Char) :
    value (left ++ right) = value left * 10 ^ right.length + value right := by
  rw [← foldl_digits]
  exact List.foldl_append

theorem value_zeros (count : Nat) : value (List.replicate count '0') = 0 := by
  induction count with
  | zero => rfl
  | succ count ih =>
    rw [List.replicate_succ', value_append_single, ih]
    rfl

theorem all_isDigit_zeros (count : Nat) : (List.replicate count '0').all isDigit = true := by
  rw [List.all_replicate]
  split <;> rfl

theorem length_digits_le {n width : Nat} (positive : 0 < width) (small : n < 10 ^ width) :
    (digits n).length ≤ width := by
  fun_induction digits n generalizing width with
  | case1 n isSmall => exact positive
  | case2 n large ih =>
    obtain ⟨width, rfl⟩ := Nat.exists_eq_succ_of_ne_zero (Nat.ne_of_gt positive)
    have positive : 0 < width := by
      rcases Nat.eq_zero_or_pos width with rfl | positive
      · exact absurd small large
      · exact positive
    have shorter : n / 10 < 10 ^ width := by
      rw [Nat.pow_succ] at small
      omega
    have bound := ih positive shorter
    rw [List.length_append, List.length_singleton]
    omega

section

variable {width n : Nat}

theorem all_isDigit_padded : (padded width n).all isDigit = true := by
  unfold padded
  rw [List.all_append, all_isDigit_zeros, all_isDigit_digits]
  rfl

@[simp] theorem value_padded : value (padded width n) = n := by
  unfold padded
  rw [value_append, value_zeros, value_digits, Nat.zero_mul, Nat.zero_add]

theorem padded_ne_nil : padded width n ≠ [] := by
  unfold padded
  intro empty
  exact digits_ne_nil n (List.append_eq_nil_iff.1 empty).2

theorem length_padded (positive : 0 < width) (small : n < 10 ^ width) : (padded width n).length = width := by
  have bound := length_digits_le positive small
  unfold padded
  rw [List.length_append, List.length_replicate]
  omega

end

end CatalogIndex.Numeral
