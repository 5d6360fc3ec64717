import CatalogIndex.Json.Tree
import CatalogIndex.Number.Scaling
import Mathlib.Algebra.Group.Nat.Defs
/-!
How large the nearest binary number of a quotient can be. A quotient of at most `2 ^ 64` has a nearest number of at most
that, so what is read by scaling from the digits that fit a word is finite however the scaling goes on.
-/
namespace CatalogIndex.Binary64

theorem roundedQuotient_le {num den most : Nat} (positive : 0 < den) (bounded : num ≤ den * most) :
    roundedQuotient num den ≤ most := by
  have floor : num / den ≤ most := Nat.div_le_of_le_mul bounded
  have parts := Nat.div_add_mod num den
  unfold roundedQuotient
  by_cases whole : num / den = most
  · have exact : num % den = 0 := by
      rw [whole] at parts
      omega
    simp only [exact, Nat.mul_zero, if_pos positive, whole, Nat.le_refl]
  · simp only
    split
    · exact floor
    · split <;> omega

theorem rescale_lt {num den above below otherAbove otherBelow : Nat} (less : num * 2 ^ below < den * 2 ^ above)
    (grows : above + otherBelow ≤ otherAbove + below) : num * 2 ^ otherBelow < den * 2 ^ otherAbove := by
  have powers : 2 ^ (above + otherBelow) ≤ 2 ^ (otherAbove + below) := Nat.pow_le_pow_right Nat.two_pos grows
  refine Nat.lt_of_mul_lt_mul_right (a := 2 ^ below) ?_
  calc num * 2 ^ otherBelow * 2 ^ below = num * 2 ^ below * 2 ^ otherBelow := Nat.mul_right_comm _ _ _
    _ < den * 2 ^ above * 2 ^ otherBelow := Nat.mul_lt_mul_of_pos_right less (Nat.two_pow_pos _)
    _ = den * 2 ^ (above + otherBelow) := by rw [Nat.pow_add, Nat.mul_assoc]
    _ ≤ den * 2 ^ (otherAbove + below) := Nat.mul_le_mul_left den powers
    _ = den * 2 ^ otherAbove * 2 ^ below := by rw [Nat.pow_add, Nat.mul_assoc]

theorem rescale_le {num den above below otherAbove otherBelow : Nat} (less : num * 2 ^ below ≤ den * 2 ^ above)
    (grows : above + otherBelow ≤ otherAbove + below) : num * 2 ^ otherBelow ≤ den * 2 ^ otherAbove := by
  refine Nat.not_lt.1 fun exceeds => ?_
  have back : den * 2 ^ above < num * 2 ^ below := rescale_lt exceeds (by omega)
  omega

theorem lt_of_log2 (num : Nat) {den : Nat} (positive : den ≠ 0) :
    num * 2 ^ den.log2 < den * 2 ^ (num.log2 + 1) := by
  have numBound := @Nat.lt_log2_self num
  have denBound := Nat.log2_self_le positive
  calc num * 2 ^ den.log2 < 2 ^ (num.log2 + 1) * 2 ^ den.log2 :=
        Nat.mul_lt_mul_of_pos_right numBound (Nat.two_pow_pos _)
    _ ≤ 2 ^ (num.log2 + 1) * den := Nat.mul_le_mul_left _ denBound
    _ = den * 2 ^ (num.log2 + 1) := Nat.mul_comm _ _

/-- A quotient is less than the double of the power of two that its binary exponent stands for. The exponent may be
negative, so it is put as a difference. -/
theorem lt_of_binaryExponent {num den above below : Nat} (positive : den ≠ 0)
    (exceeds : binaryExponent num den + 1 ≤ (above : Int) - below) : num * 2 ^ below < den * 2 ^ above := by
  unfold binaryExponent at exceeds
  simp only at exceeds
  by_cases order : 0 ≤ (num.log2 : Int) - den.log2
  · simp only [if_pos order, Nat.shiftLeft_eq] at exceeds
    split at exceeds
    · rename_i less
      have scaled : num * 2 ^ 0 < den * 2 ^ ((num.log2 : Int) - den.log2).toNat := by rwa [Nat.pow_zero, Nat.mul_one]
      exact rescale_lt scaled (by omega)
    · exact rescale_lt (lt_of_log2 num positive) (by omega)
  · simp only [if_neg order, Nat.shiftLeft_eq] at exceeds
    split at exceeds
    · rename_i less
      have scaled : num * 2 ^ (-((num.log2 : Int) - den.log2)).toNat < den * 2 ^ 0 := by rwa [Nat.pow_zero, Nat.mul_one]
      exact rescale_lt scaled (by omega)
    · exact rescale_lt (lt_of_log2 num positive) (by omega)

theorem le_of_binaryExponent {num den above below : Nat} (some : num ≠ 0)
    (within : (above : Int) - below ≤ binaryExponent num den) : den * 2 ^ above ≤ num * 2 ^ below := by
  unfold binaryExponent at within
  simp only at within
  by_cases order : 0 ≤ (num.log2 : Int) - den.log2
  · simp only [if_pos order, Nat.shiftLeft_eq] at within
    split at within
    · exact Nat.le_of_lt (rescale_lt (lt_of_log2 den some) (by omega))
    · rename_i notLess
      have scaled : den * 2 ^ ((num.log2 : Int) - den.log2).toNat ≤ num * 2 ^ 0 := by
        rw [Nat.pow_zero, Nat.mul_one]
        exact Nat.not_lt.1 notLess
      exact rescale_le scaled (by omega)
  · simp only [if_neg order, Nat.shiftLeft_eq] at within
    split at within
    · exact Nat.le_of_lt (rescale_lt (lt_of_log2 den some) (by omega))
    · rename_i notLess
      have scaled : den * 2 ^ 0 ≤ num * 2 ^ (-((num.log2 : Int) - den.log2)).toNat := by
        rw [Nat.pow_zero, Nat.mul_one]
        exact Nat.not_lt.1 notLess
      exact rescale_le scaled (by omega)

/-- How often a unit, a power of two, goes into a quotient that is at most `2 ^ places` units. -/
theorem count_le {num den places : Nat} {unit : Int} (positive : 0 < den)
    (bounded : ∀ above below : Nat, (above : Int) - below = unit + places → num * 2 ^ below ≤ den * 2 ^ above) :
    (if 0 ≤ unit then roundedQuotient num (den <<< unit.toNat) else roundedQuotient (num <<< (-unit).toNat) den) ≤
      2 ^ places := by
  by_cases order : 0 ≤ unit
  · have scaled := bounded (unit.toNat + places) 0 (by omega)
    rw [Nat.pow_zero, Nat.mul_one, Nat.pow_add, ← Nat.mul_assoc] at scaled
    rw [if_pos order, Nat.shiftLeft_eq]
    exact roundedQuotient_le (Nat.mul_pos positive (Nat.two_pow_pos _)) scaled
  · have scaled := bounded places (-unit).toNat (by omega)
    rw [if_neg order, Nat.shiftLeft_eq]
    exact roundedQuotient_le positive scaled

theorem magnitudeBits_le {num den power : Nat} (positive : 0 < den) (bounded : num ≤ den * 2 ^ power) :
    magnitudeBits num den ≤ (power + 1023) * exponentUnit := by
  unfold magnitudeBits
  by_cases zero : num = 0
  · rw [if_pos zero]
    exact Nat.zero_le _
  · rw [if_neg zero]
    refine Nat.le_trans (Nat.min_le_left _ _) ?_
    have unitIs : exponentUnit = 4503599627370496 := rfl
    obtain ⟨exponent, exponentIs⟩ : ∃ exponent, exponent = binaryExponent num den := ⟨_, rfl⟩
    have top : exponent ≤ power := by
      refine Int.not_lt.1 fun above => ?_
      have least : den * 2 ^ (power + 1) ≤ num * 2 ^ 0 := le_of_binaryExponent zero (by omega)
      have less := Nat.mul_pos positive (Nat.two_pow_pos power)
      rw [Nat.pow_zero, Nat.mul_one, Nat.pow_succ, ← Nat.mul_assoc] at least
      omega
    unfold unitExponent
    rw [← exponentIs, unitIs]
    by_cases full : exponent = power
    · have count := @count_le num den 52 (max (exponent - 52) (-1074)) positive fun above below difference =>
        rescale_le (show num * 2 ^ 0 ≤ den * 2 ^ power by rwa [Nat.pow_zero, Nat.mul_one]) (by omega)
      generalize (if 0 ≤ max (exponent - 52) (-1074) then _ else _) = rounded at count ⊢
      omega
    · have count := @count_le num den 53 (max (exponent - 52) (-1074)) positive fun above below difference =>
        Nat.le_of_lt (lt_of_binaryExponent (Nat.ne_of_gt positive) (by omega))
      generalize (if 0 ≤ max (exponent - 52) (-1074) then _ else _) = rounded at count ⊢
      omega

theorem magnitudeBits_le_infinity (num den : Nat) : magnitudeBits num den ≤ infinityBits := by
  unfold magnitudeBits
  split
  · exact Nat.zero_le _
  · exact Nat.min_le_right _ _

/-! ### Numbers up to a word -/

theorem exponentUnit_eq : exponentUnit = 4503599627370496 := rfl

theorem signUnit_eq : signUnit = 9223372036854775808 := rfl

theorem infinityBits_eq : infinityBits = 9218868437227405312 := by rw [infinityBits, exponentUnit_eq]

/-- Whether a number is neither negative nor more than `2 ^ 64`. -/
def Small (x : Binary64) : Prop := x.bits.toNat ≤ (64 + 1023) * exponentUnit

theorem denominator_pos (x : Binary64) : 0 < x.denominator := by
  unfold denominator
  split
  · exact Nat.one_pos
  · rw [Nat.shiftLeft_eq, Nat.one_mul]
    exact Nat.two_pow_pos _

section

variable {x : Binary64} {num den : Nat}

theorem bits_ofRatio (num den : Nat) : (ofRatio false num den).bits.toNat = magnitudeBits num den := by
  have bound := magnitudeBits_le_infinity num den
  have infinity := infinityBits_eq
  have fits : magnitudeBits num den < 2 ^ 64 := by omega
  unfold ofRatio ofMagnitude
  rw [if_neg Bool.false_ne_true, UInt64.toNat_ofNat']
  exact Nat.mod_eq_of_lt fits

theorem small_ofRatio (positive : 0 < den) (bounded : num ≤ den * 2 ^ 64) : (ofRatio false num den).Small := by
  unfold Small
  rw [bits_ofRatio]
  exact magnitudeBits_le positive bounded

theorem Small.isNegative (small : x.Small) : x.isNegative = false := by
  have unit := exponentUnit_eq
  have sign := signUnit_eq
  unfold Small at small
  unfold Binary64.isNegative
  rw [decide_eq_false_iff_not]
  omega

theorem Small.isFinite (small : x.Small) : x.isFinite = true := by
  unfold Small at small
  unfold Binary64.isFinite exponentField
  rw [exponentUnit_eq] at *
  rw [bne_iff_ne]
  omega

theorem significand_lt (x : Binary64) : x.significand < 2 ^ 53 := by
  have rest := Nat.mod_lt x.bits.toNat (show 0 < exponentUnit by decide)
  have unit := exponentUnit_eq
  unfold significand fraction
  split <;> omega

theorem Small.numerator_le (small : x.Small) : x.numerator ≤ x.denominator * 2 ^ 64 := by
  have mantissa := x.significand_lt
  have positive := x.denominator_pos
  unfold numerator
  by_cases whole : 0 ≤ x.scale
  · have field : (x.exponentField : Int) - 1075 = x.scale ∧ x.exponentField ≤ 1087 ∧
        (x.exponentField = 1087 → x.significand ≤ 2 ^ 52) := by
      unfold Small at small
      unfold scale at whole ⊢
      unfold significand fraction exponentField at *
      rw [exponentUnit_eq] at *
      generalize x.bits.toNat = bits at *
      refine ⟨by omega, by omega, fun top => ?_⟩
      rw [if_neg (by omega)]
      omega
    obtain ⟨scaleIs, most, exact⟩ := field
    rw [if_pos whole, Nat.shiftLeft_eq]
    have bound : x.significand * 2 ^ x.scale.toNat ≤ 2 ^ 64 := by
      by_cases top : x.exponentField = 1087
      · have twelve : x.scale.toNat = 12 := by omega
        rw [twelve]
        exact Nat.mul_le_mul_right (2 ^ 12) (exact top)
      · have power : 2 ^ x.scale.toNat ≤ 2 ^ 11 := Nat.pow_le_pow_right Nat.two_pos (by omega)
        calc x.significand * 2 ^ x.scale.toNat ≤ 2 ^ 53 * 2 ^ 11 := Nat.mul_le_mul (Nat.le_of_lt mantissa) power
          _ = 2 ^ 64 := by rw [← Nat.pow_add]
    exact Nat.le_trans bound (Nat.le_mul_of_pos_left _ positive)
  · rw [if_neg whole]
    exact Nat.le_trans (Nat.le_of_lt (Nat.lt_trans mantissa (by decide))) (Nat.le_mul_of_pos_left _ positive)

theorem powerOfTen_bounds {exponent : Nat} (most : exponent ≤ largestPower) :
    (powerOfTen exponent).isNegative = false ∧ (powerOfTen exponent).denominator ≤ (powerOfTen exponent).numerator := by
  have powers : ∀ exponent : Fin 309, (powerOfTen exponent.val).isNegative = false ∧
      (powerOfTen exponent.val).denominator ≤ (powerOfTen exponent.val).numerator := by decide +kernel
  exact powers ⟨exponent, Nat.lt_succ_of_le most⟩

theorem Small.quotient (small : x.Small) {exponent : Nat} (most : exponent ≤ largestPower) :
    (x.quotient (powerOfTen exponent)).Small := by
  obtain ⟨power, order⟩ := powerOfTen_bounds most
  have positive := (powerOfTen exponent).denominator_pos
  unfold Binary64.quotient
  rw [small.isNegative, power]
  refine small_ofRatio (Nat.mul_pos x.denominator_pos (by omega)) ?_
  calc x.numerator * (powerOfTen exponent).denominator
      ≤ x.denominator * 2 ^ 64 * (powerOfTen exponent).numerator := Nat.mul_le_mul small.numerator_le order
    _ = x.denominator * (powerOfTen exponent).numerator * 2 ^ 64 := Nat.mul_right_comm _ _ _

theorem bits_of_small (small : x.Small) : x.bits.toNat < signUnit := by
  have unit := exponentUnit_eq
  have sign := signUnit_eq
  unfold Small at small
  omega

theorem Small.finite (small : x.Small) : x.isFinite = true ∧ x.bits.toNat < signUnit :=
  ⟨small.isFinite, bits_of_small small⟩

theorem finite_of_product (small : x.Small) {exponent : Nat} (most : exponent ≤ largestPower)
    (finite : (x.product (powerOfTen exponent)).isFinite = true) :
    (x.product (powerOfTen exponent)).isFinite = true ∧ (x.product (powerOfTen exponent)).bits.toNat < signUnit := by
  refine ⟨finite, ?_⟩
  have infinity := infinityBits_eq
  have sign := signUnit_eq
  unfold product
  rw [small.isNegative, (powerOfTen_bounds most).1]
  change (ofRatio false _ _).bits.toNat < signUnit
  rw [bits_ofRatio]
  exact Nat.lt_of_le_of_lt (magnitudeBits_le_infinity _ _) (by omega)

theorem finite_of_near {rounds : Nat} {exponent : Int} {y : Binary64} (small : x.Small)
    (near : exponent.natAbs ≤ largestPower) (scales : scaled? rounds x exponent = some y) :
    y.isFinite = true ∧ y.bits.toNat < signUnit := by
  unfold scaled? at scales
  simp only [if_pos near] at scales
  split at scales
  · split at scales
    · rename_i finite
      cases scales
      exact finite_of_product small near finite
    · cases scales
  · cases scales
    exact (small.quotient near).finite

theorem finite_of_scaled? {rounds : Nat} {exponent : Int} {y : Binary64} (small : x.Small)
    (scales : scaled? rounds x exponent = some y) : y.isFinite = true ∧ y.bits.toNat < signUnit := by
  induction rounds generalizing x exponent with
  | zero =>
    by_cases near : exponent.natAbs ≤ largestPower
    · exact finite_of_near small near scales
    · unfold scaled? at scales
      simp only [if_neg near] at scales
      split at scales
      · cases scales
        exact small.finite
      · split at scales
        · cases scales
        · cases scales
          exact small.finite
  | succ rounds ih =>
    by_cases near : exponent.natAbs ≤ largestPower
    · exact finite_of_near small near scales
    · unfold scaled? at scales
      simp only [if_neg near] at scales
      split at scales
      · cases scales
        exact small.finite
      · split at scales
        · cases scales
        · exact ih (small.quotient (Nat.le_refl _)) scales

end

/-! ### Numbers that have been read -/

theorem fill_lt {start : Nat} {chars : List Char} (fits : start < UInt64.size) :
    (fill start chars).1 < UInt64.size := by
  induction chars generalizing start with
  | nil => exact fits
  | cons c rest ih =>
    unfold fill
    simp only
    split
    · rename_i next
      exact ih next
    · exact fits

theorem small_ofInt {n : Nat} (fits : n ≤ UInt64.size) : (ofInt n).Small := by
  unfold ofInt
  have positive : decide ((n : Int) < 0) = false := by
    rw [decide_eq_false_iff_not]
    omega
  rw [positive]
  exact small_ofRatio Nat.one_pos (by simpa using fits)

theorem isFinite_ofMagnitude {magnitude : Nat} (fits : magnitude < signUnit) (negative : Bool) :
    (ofMagnitude negative magnitude).isFinite = (magnitude / exponentUnit % 2048 != 2047) := by
  have sign := signUnit_eq
  unfold isFinite exponentField ofMagnitude
  rw [exponentUnit_eq, UInt64.toNat_ofNat']
  cases negative with
  | false =>
    have same : magnitude % 2 ^ 64 = magnitude := by omega
    simp only [Bool.false_eq_true, if_false, same]
  | true =>
    have same : (signUnit + magnitude) % 2 ^ 64 / 4503599627370496 % 2048 =
        magnitude / 4503599627370496 % 2048 := by omega
    simp only [if_true, same]

theorem isFinite_of_ofDigits? {negative : Bool} {whole fraction : List Char} {exponent : Int} {x : Binary64}
    (reads : ofDigits? negative whole fraction exponent = some x) : x.isFinite = true := by
  obtain ⟨scaled, scales, rfl⟩ := Option.map_eq_some_iff.1 reads
  have fits : (fill (fill 0 whole).1 fraction).1 < UInt64.size := fill_lt (fill_lt (by decide))
  obtain ⟨finite, bound⟩ := finite_of_scaled? (small_ofInt (Nat.le_of_lt fits)) scales
  rw [isFinite_ofMagnitude bound]
  exact finite

theorem isFinite_ofInt {n : Int} (fits : Json.fitsWord n = true) : (ofInt n).isFinite = true := by
  have least : Int64.minValue.toInt = -9223372036854775808 := rfl
  have size : (UInt64.size : Int) = 18446744073709551616 := rfl
  have unit := exponentUnit_eq
  have sign := signUnit_eq
  simp only [Json.fitsWord, Bool.and_eq_true, decide_eq_true_eq, least, size] at fits
  have magnitude : n.natAbs ≤ 1 * 2 ^ 64 := by omega
  have bound := magnitudeBits_le Nat.one_pos magnitude
  unfold ofInt ofRatio
  rw [isFinite_ofMagnitude (by omega), unit, bne_iff_ne]
  omega

end CatalogIndex.Binary64
