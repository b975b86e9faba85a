import Mathlib.Algebra.Order.Ring.Int
import Mathlib.Algebra.Order.Ring.Rat
import Mathlib.Tactic.Common

/-!
# Rounding a natural number to a number of significant bits

Binary floating point keeps the leading `precision` bits of a value and rounds
to nearest, ties to even.  A value with a fractional part is covered by scaling
it with a power of two first, which moves the point and changes no bit.
-/

namespace RejiStudio.Lib

/-- Drop the low `shift` bits, rounding to nearest with ties to even. -/
def roundShiftRight (n shift : Nat) : Nat :=
  let quotient := n / 2 ^ shift
  let remainder := n % 2 ^ shift
  if 2 * remainder < 2 ^ shift ∨ 2 * remainder = 2 ^ shift ∧ quotient % 2 = 0 then
    quotient
  else
    quotient + 1

/-- Keep the leading `precision` bits. -/
def roundSignificand (precision n : Nat) : Nat :=
  let shift := n.log2 + 1 - precision
  roundShiftRight n shift * 2 ^ shift

theorem roundShiftRight_error (n shift : Nat) :
    2 * (roundShiftRight n shift * 2 ^ shift) ≤ 2 * n + 2 ^ shift ∧
      2 * n ≤ 2 * (roundShiftRight n shift * 2 ^ shift) + 2 ^ shift := by
  have division : n / 2 ^ shift * 2 ^ shift + n % 2 ^ shift = n := Nat.div_add_mod' n _
  have remainderBound : n % 2 ^ shift < 2 ^ shift := Nat.mod_lt _ (Nat.two_pow_pos shift)
  unfold roundShiftRight
  dsimp only
  by_cases down : 2 * (n % 2 ^ shift) < 2 ^ shift ∨
      2 * (n % 2 ^ shift) = 2 ^ shift ∧ n / 2 ^ shift % 2 = 0
  · rw [if_pos down]
    omega
  · rw [if_neg down, Nat.add_mul, Nat.one_mul]
    have halfway : 2 ^ shift ≤ 2 * (n % 2 ^ shift) := by
      by_contra below
      exact down (Or.inl (Nat.lt_of_not_le below))
    omega

theorem lastPlace_le {precision n : Nat} (positive : 0 < precision)
    (large : precision < n.log2 + 1) :
    2 ^ (n.log2 + 1 - precision) * 2 ^ precision ≤ 2 * n := by
  have nonzero : n ≠ 0 := by
    rintro rfl
    rw [Nat.log2_zero] at large
    omega
  calc
    2 ^ (n.log2 + 1 - precision) * 2 ^ precision = 2 ^ (n.log2 + 1) := by
      rw [← Nat.pow_add, Nat.sub_add_cancel (Nat.le_of_lt large)]
    _ = 2 * 2 ^ n.log2 := by rw [Nat.pow_succ, Nat.mul_comm]
    _ ≤ 2 * n := Nat.mul_le_mul_left 2 (Nat.log2_self_le nonzero)

/-- Keeping `precision` bits moves a value by at most `2 ^ -precision` of itself. -/
theorem roundSignificand_error {precision : Nat} (positive : 0 < precision) (n : Nat) :
    2 ^ precision * roundSignificand precision n ≤ 2 ^ precision * n + n ∧
      2 ^ precision * n ≤ 2 ^ precision * roundSignificand precision n + n := by
  by_cases large : precision < n.log2 + 1
  · obtain ⟨above, below⟩ := roundShiftRight_error n (n.log2 + 1 - precision)
    have place := lastPlace_le positive large
    rw [Nat.mul_comm] at place
    have scaledAbove := Nat.mul_le_mul_left (2 ^ precision) above
    have scaledBelow := Nat.mul_le_mul_left (2 ^ precision) below
    rw [Nat.mul_add, Nat.mul_left_comm _ 2, Nat.mul_left_comm _ 2] at scaledAbove
    rw [Nat.mul_add, Nat.mul_left_comm _ 2, Nat.mul_left_comm _ 2] at scaledBelow
    unfold roundSignificand
    dsimp only
    constructor <;> omega
  · have exactShift : n.log2 + 1 - precision = 0 := Nat.sub_eq_zero_of_le (Nat.le_of_not_lt large)
    have kept : roundSignificand precision n = n := by
      simp [roundSignificand, roundShiftRight, exactShift, Nat.mod_one]
    rw [kept]
    exact ⟨Nat.le_add_right _ _, Nat.le_add_right _ _⟩

/-- A quotient of naturals, rounded once: the integer quotient keeps two bits more
than needed, and a last bit that says whether anything was cut off. -/
def roundQuotient (precision numerator denominator : Nat) : Rat :=
  let shift := denominator.log2 + precision + 2
  let quotient := numerator * 2 ^ shift / denominator
  let sticky := if numerator * 2 ^ shift % denominator = 0 then 0 else 1
  mkRat (roundSignificand precision (2 * quotient + sticky)) (2 ^ (shift + 1))

/-- The binary floating point number nearest to a rational, within the range of
normal numbers. -/
def roundRational (precision : Nat) (value : Rat) : Rat :=
  if value.num < 0 then
    -roundQuotient precision value.num.natAbs value.den
  else
    roundQuotient precision value.num.natAbs value.den

def single (value : Rat) : Rat := roundRational 24 value

def doublePrecision : Nat := 53

def ofDoubleBits (bits : UInt64) : Rat :=
  let fraction := bits.toNat % 2 ^ 52
  let exponent := bits.toNat / 2 ^ 52 % 2 ^ 11
  let significand := if exponent = 0 then fraction else 2 ^ 52 + fraction
  let magnitude : Rat :=
    if 1075 ≤ exponent then
      mkRat (significand * 2 ^ (exponent - 1075) : Nat) 1
    else
      mkRat significand (2 ^ (1075 - max exponent 1))
  if bits.toNat / 2 ^ 63 = 1 then -magnitude else magnitude

def roundHalfAway (value : Rat) : Int :=
  if value < 0 then -(-value + 1 / 2).floor else (value + 1 / 2).floor

end RejiStudio.Lib
