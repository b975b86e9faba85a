import RejiStudio.Lib.NearestEven

/-!
# The bitrate policy

The arithmetic of the healing actions on a bitrate in kbps.  The fifteen percent
fallback multiplies in single precision: the bitrate is rounded to 24 bits, so is
the product, and the result is truncated.
-/

namespace RejiStudio.Pipeline

open RejiStudio.Lib

def singlePrecision : Nat := 24

theorem singlePrecision_pos : 0 < singlePrecision := by decide

/-- `static_cast<uint32_t>(value * factor)` for a single precision `factor`, given
as `significand / 2 ^ exponent`.  A product of `2 ^ 32` or more has no defined
conversion; the low word is what the 64-bit conversion leaves. -/
def mulSingle (value : UInt32) (significand exponent : Nat) : UInt32 :=
  UInt32.ofNat
    (roundSignificand singlePrecision
      (roundSignificand singlePrecision value.toNat * significand) / 2 ^ exponent)

/-- The floor follows the user's target down, so that REDUCE still has room. -/
def reduceFloorForTarget (configuredFloor targetKbps : UInt32) : UInt32 :=
  min configuredFloor targetKbps

/-- `stepKbps ≤ 0` falls back to `current * 0.85f`. -/
def reduceStepBitrate (currentKbps : UInt32) (stepKbps : Int32) : UInt32 :=
  if 0 < stepKbps then
    if stepKbps.toUInt32 < currentKbps then currentKbps - stepKbps.toUInt32 else 0
  else
    mulSingle currentKbps 14260634 24

/-- `stepKbps ≤ 0` falls back to `current * 1.15f`. -/
def recoverStepBitrate (currentKbps : UInt32) (stepKbps : Int32) : UInt32 :=
  if 0 < stepKbps then
    currentKbps + stepKbps.toUInt32
  else
    mulSingle currentKbps 9646899 23

example : reduceStepBitrate 6000 0 = 5100 ∧ recoverStepBitrate 6000 0 = 6900 := by decide

/-! ## Signed and unsigned words -/

theorem toInt32_pos_iff (value : UInt32) :
    0 < value.toInt32 ↔ 0 < value.toNat ∧ value.toNat < 2 ^ 31 := by
  have bound := value.toNat_lt
  rw [Int32.lt_iff_toInt_lt, Int32.toInt_zero, ← Int32.toInt_toBitVec,
    UInt32.toBitVec_toInt32, BitVec.toInt_eq_toNat_cond, UInt32.toNat_toBitVec]
  split <;> omega

theorem toUInt32_of_pos {step : Int32} (positive : 0 < step) :
    0 < step.toUInt32.toNat ∧ step.toUInt32.toNat < 2 ^ 31 := by
  rwa [← toInt32_pos_iff, Int32.toInt32_toUInt32]

theorem toNat_min (first second : UInt32) :
    (min first second).toNat = min first.toNat second.toNat := by
  show (if first ≤ second then first else second).toNat = _
  by_cases ordered : first ≤ second
  · rw [if_pos ordered, Nat.min_eq_left (UInt32.le_iff_toNat_le.mp ordered)]
  · have reversed : second.toNat ≤ first.toNat := UInt32.le_of_lt (UInt32.not_le.mp ordered)
    rw [if_neg ordered, Nat.min_eq_right reversed]

theorem toNat_max (first second : UInt32) :
    (max first second).toNat = max first.toNat second.toNat := by
  show (if first ≤ second then second else first).toNat = _
  by_cases ordered : first ≤ second
  · rw [if_pos ordered, Nat.max_eq_right (UInt32.le_iff_toNat_le.mp ordered)]
  · have reversed : second.toNat ≤ first.toNat := UInt32.le_of_lt (UInt32.not_le.mp ordered)
    rw [if_neg ordered, Nat.max_eq_left reversed]

/-! ## A reduction does not raise and a recovery does not lower -/

theorem toNat_reduceStepBitrate {step : Int32} (current : UInt32) (positive : 0 < step) :
    (reduceStepBitrate current step).toNat = current.toNat - step.toUInt32.toNat := by
  unfold reduceStepBitrate
  rw [if_pos positive]
  by_cases above : step.toUInt32 < current
  · rw [if_pos above, UInt32.toNat_sub_of_le _ _ (UInt32.le_of_lt above)]
  · rw [if_neg above]
    have atMost : current.toNat ≤ step.toUInt32.toNat := UInt32.not_lt.mp above
    simp [Nat.sub_eq_zero_of_le atMost]

/-- A reduction does not raise, whatever the step. -/
theorem reduceStepBitrate_le (current : UInt32) (step : Int32) :
    (reduceStepBitrate current step).toNat ≤ current.toNat := by
  by_cases positive : 0 < step
  · rw [toNat_reduceStepBitrate current positive]
    exact Nat.sub_le _ _
  · unfold reduceStepBitrate mulSingle
    rw [if_neg positive]
    have bound := current.toNat_lt
    set value := roundSignificand singlePrecision current.toNat with valueDef
    have valueError := (roundSignificand_error singlePrecision_pos current.toNat).1
    have productError := (roundSignificand_error singlePrecision_pos (value * 14260634)).1
    rw [← valueDef] at valueError
    have quotient : roundSignificand singlePrecision (value * 14260634) / 2 ^ 24 ≤
        current.toNat := by
      apply Nat.le_of_lt_succ
      rw [Nat.div_lt_iff_lt_mul (Nat.two_pow_pos 24)]
      simp only [singlePrecision] at valueError productError ⊢
      omega
    rw [UInt32.toNat_ofNat_of_lt' (Nat.lt_of_le_of_lt quotient bound)]
    exact quotient

/-- A recovery does not lower a bitrate that has room for the sum. -/
theorem le_recoverStepBitrate {current : UInt32} (small : current.toNat < 2 ^ 31)
    (step : Int32) : current.toNat ≤ (recoverStepBitrate current step).toNat := by
  by_cases positive : 0 < step
  · have stepBound := toUInt32_of_pos positive
    unfold recoverStepBitrate
    rw [if_pos positive, UInt32.toNat_add, Nat.mod_eq_of_lt (by omega)]
    exact Nat.le_add_right _ _
  · unfold recoverStepBitrate mulSingle
    rw [if_neg positive]
    set value := roundSignificand singlePrecision current.toNat with valueDef
    have valueError := roundSignificand_error singlePrecision_pos current.toNat
    have productError := roundSignificand_error singlePrecision_pos (value * 9646899)
    rw [← valueDef] at valueError
    simp only [singlePrecision] at valueError productError ⊢
    have defined : roundSignificand 24 (value * 9646899) / 2 ^ 23 < UInt32.size := by
      rw [Nat.div_lt_iff_lt_mul (Nat.two_pow_pos 23)]
      simp only [UInt32.size]
      omega
    rw [UInt32.toNat_ofNat_of_lt' defined, Nat.le_div_iff_mul_le (Nat.two_pow_pos 23)]
    omega

end RejiStudio.Pipeline
