import Mathlib.Algebra.Order.Field.Rat
import Mathlib.Algebra.Order.Archimedean.Basic
import Mathlib.Data.Rat.Floor
import Mathlib.Tactic.FieldSimp
import Mathlib.Tactic.Linarith
import Mathlib.Tactic.Positivity
import RejiStudio.Lib.NearestEven

/-!
# The error of rounding a rational number

Rounding to a number of significant bits moves a rational by a small part of itself,
rounding to an integer by at most a half.
-/

namespace RejiStudio.Lib

theorem abs_roundSignificand_sub_le {precision : Nat} (positive : 0 < precision) (n : Nat) :
    |(roundSignificand precision n : Rat) - n| ≤ n / 2 ^ precision := by
  obtain ⟨above, below⟩ := roundSignificand_error positive n
  have scale : (0 : Rat) < 2 ^ precision := by positivity
  have aboveRat : (2 : Rat) ^ precision * roundSignificand precision n ≤ 2 ^ precision * n + n := by
    exact_mod_cast above
  have belowRat : (2 : Rat) ^ precision * n ≤ 2 ^ precision * roundSignificand precision n + n := by
    exact_mod_cast below
  rw [abs_le, neg_le_iff_add_nonneg, div_eq_mul_inv]
  have unit : (2 : Rat) ^ precision * (2 ^ precision)⁻¹ = 1 := mul_inv_cancel₀ scale.ne'
  have small : (0 : Rat) < (2 ^ precision)⁻¹ := by positivity
  constructor
  · nlinarith
  · nlinarith

theorem abs_sticky_sub_le (scaled : Nat) {denominator : Nat} (positive : 0 < denominator) :
    |((2 * (scaled / denominator) + if scaled % denominator = 0 then 0 else 1 : Nat) : Rat) -
      2 * scaled / denominator| ≤ 1 := by
  have division : denominator * (scaled / denominator) + scaled % denominator = scaled :=
    Nat.div_add_mod _ _
  have bound := Nat.mod_lt scaled positive
  have denominatorPositive : (0 : Rat) < denominator := by exact_mod_cast positive
  have divisionRat : (denominator : Rat) * (scaled / denominator : Nat) +
      (scaled % denominator : Nat) = scaled := by exact_mod_cast division
  have boundRat : ((scaled % denominator : Nat) : Rat) < denominator := by exact_mod_cast bound
  have whole : 2 * (scaled : Rat) / denominator = 2 * (scaled / denominator : Nat) +
      2 * ((scaled % denominator : Nat) : Rat) / denominator := by
    field_simp
    linarith
  rw [whole]
  split
  next exact_ =>
    simp [exact_]
  next =>
    have low : 0 ≤ 2 * ((scaled % denominator : Nat) : Rat) / denominator := by positivity
    have high : 2 * ((scaled % denominator : Nat) : Rat) / denominator ≤ 2 := by
      rw [div_le_iff₀ denominatorPositive]
      linarith
    push_cast
    rw [abs_le]
    constructor <;> linarith

theorem two_pow_le_scaled (precision : Nat) {numerator denominator : Nat}
    (nonzero : 0 < numerator) (positive : 0 < denominator) :
    (2 : Rat) ^ (precision + 2) ≤
      2 * (numerator * 2 ^ (denominator.log2 + precision + 2) : Nat) / denominator := by
  have denominatorPositive : (0 : Rat) < denominator := by exact_mod_cast positive
  rw [le_div_iff₀ denominatorPositive]
  have atMost : denominator ≤ 2 ^ (denominator.log2 + 1) := Nat.le_of_lt Nat.lt_log2_self
  have scaled : 2 ^ (precision + 2) * denominator ≤
      2 * (numerator * 2 ^ (denominator.log2 + precision + 2)) :=
    calc
      2 ^ (precision + 2) * denominator ≤ 2 ^ (precision + 2) * 2 ^ (denominator.log2 + 1) :=
        Nat.mul_le_mul_left _ atMost
      _ = 2 * (1 * 2 ^ (denominator.log2 + precision + 2)) := by ring
      _ ≤ 2 * (numerator * 2 ^ (denominator.log2 + precision + 2)) :=
        Nat.mul_le_mul_left _ (Nat.mul_le_mul_right _ nonzero)
  exact_mod_cast scaled

theorem abs_roundQuotient_sub_le {precision : Nat} (positive : 0 < precision) (numerator : Nat)
    {denominator : Nat} (nonzero : 0 < denominator) :
    |roundQuotient precision numerator denominator - numerator / denominator| ≤
      2 / 2 ^ precision * (numerator / denominator) := by
  rcases Nat.eq_zero_or_pos numerator with rfl | numeratorPositive
  · have zero : roundQuotient precision 0 denominator = 0 := by
      simp [roundQuotient, roundSignificand, roundShiftRight]
    simp [zero]
  set shift := denominator.log2 + precision + 2 with shiftDef
  set scaled := numerator * 2 ^ shift with scaledDef
  set sticky : Nat := if scaled % denominator = 0 then 0 else 1 with stickyDef
  set integer := 2 * (scaled / denominator) + sticky with integerDef
  set exact_ : Rat := 2 * (scaled : Rat) / denominator with exactDef
  have unit : (0 : Rat) < 2 ^ precision := by positivity
  have atLeastOne : (1 : Rat) ≤ 2 ^ precision := one_le_pow₀ (by norm_num)
  have guarded : (2 : Rat) ^ precision * 4 ≤ exact_ := by
    have large := two_pow_le_scaled precision numeratorPositive nonzero
    rw [pow_add] at large
    linarith
  have stickyError : |(integer : Rat) - exact_| ≤ 1 := abs_sticky_sub_le scaled nonzero
  have rounded := abs_roundSignificand_sub_le positive integer
  have result : roundQuotient precision numerator denominator =
      (roundSignificand precision integer : Rat) / 2 ^ (shift + 1) := by
    simp only [roundQuotient, ← shiftDef, ← scaledDef, ← stickyDef, ← integerDef]
    rw [Rat.mkRat_eq_div]
    norm_num
  have value : (numerator : Rat) / denominator = exact_ / 2 ^ (shift + 1) := by
    rw [exactDef, scaledDef]
    push_cast
    field_simp
    ring
  have small : (integer : Rat) / 2 ^ precision + 1 ≤ 2 / 2 ^ precision * exact_ := by
    rw [div_mul_eq_mul_div, div_add_one unit.ne', div_le_div_iff_of_pos_right unit]
    have upper := (abs_le.mp stickyError).2
    linarith
  have error : |(roundSignificand precision integer : Rat) - exact_| ≤
      2 / 2 ^ precision * exact_ :=
    calc
      |(roundSignificand precision integer : Rat) - exact_| ≤
          |(roundSignificand precision integer : Rat) - integer| + |(integer : Rat) - exact_| :=
        abs_sub_le _ _ _
      _ ≤ integer / 2 ^ precision + 1 := add_le_add rounded stickyError
      _ ≤ 2 / 2 ^ precision * exact_ := small
  have scale : (0 : Rat) < 2 ^ (shift + 1) := by positivity
  rw [result, value, ← sub_div, abs_div, abs_of_pos scale, ← mul_div_assoc]
  exact div_le_div_of_nonneg_right error scale.le

/-- Rounding to `precision` bits moves a rational by at most `2 ^ (1 - precision)` of
itself. -/
theorem abs_roundRational_sub_le {precision : Nat} (positive : 0 < precision) (value : Rat) :
    |roundRational precision value - value| ≤ 2 / 2 ^ precision * |value| := by
  have quotient := abs_roundQuotient_sub_le positive value.num.natAbs value.den_pos
  have magnitude : ((value.num.natAbs : Nat) : Rat) / value.den = |value| := by
    rw [Nat.cast_natAbs, Int.cast_abs]
    conv_rhs => rw [← Rat.num_div_den value]
    rw [abs_div, Nat.abs_cast]
  rw [magnitude] at quotient
  unfold roundRational
  split
  next negative =>
    have below : value < 0 := Rat.num_neg.mp negative
    rw [abs_of_neg below] at quotient ⊢
    rw [abs_sub_comm] at quotient
    have regroup : -roundQuotient precision value.num.natAbs value.den - value =
        -value - roundQuotient precision value.num.natAbs value.den := by ring
    rw [regroup]
    exact quotient
  next nonnegative =>
    have above : 0 ≤ value := Rat.num_nonneg.mp (Int.not_lt.mp nonnegative)
    rw [abs_of_nonneg above] at quotient ⊢
    exact quotient

/-! ## Rounding to an integer -/

theorem abs_roundHalfAway_sub_le (value : Rat) :
    |(roundHalfAway value : Rat) - value| ≤ 1 / 2 := by
  unfold roundHalfAway
  split
  next =>
    have lower := Rat.floor_le (-value + 1 / 2)
    have upper := Rat.lt_floor_add_one (-value + 1 / 2)
    push_cast at upper ⊢
    rw [abs_le]
    constructor <;> linarith
  next =>
    have lower := Rat.floor_le (value + 1 / 2)
    have upper := Rat.lt_floor_add_one (value + 1 / 2)
    push_cast at upper
    rw [abs_le]
    constructor <;> linarith

theorem roundHalfAway_nonpos {value : Rat} (nonpositive : value ≤ 0) :
    roundHalfAway value ≤ 0 := by
  unfold roundHalfAway
  split
  next negative =>
    have half : (0 : Int) ≤ (-value + 1 / 2).floor := by
      rw [Rat.le_floor_iff]
      push_cast
      linarith
    omega
  next nonnegative =>
    have zero : value = 0 := le_antisymm nonpositive (not_lt.mp nonnegative)
    subst zero
    decide +kernel

theorem le_roundHalfAway_iff {value : Rat} {bound : Int} (positive : 0 < bound) :
    bound ≤ roundHalfAway value ↔ (bound : Rat) - 1 / 2 ≤ value := by
  have boundPositive : (1 : Rat) ≤ bound := by exact_mod_cast positive
  unfold roundHalfAway
  split
  next negative =>
    constructor
    · intro reached
      have half : (0 : Int) ≤ (-value + 1 / 2).floor := by
        rw [Rat.le_floor_iff]
        push_cast
        linarith
      omega
    · intro above
      linarith
  next =>
    rw [Rat.le_floor_iff]
    constructor <;> intro _ <;> linarith

end RejiStudio.Lib
