import Mathlib.Algebra.Order.Ring.Rat

/-!
# The baseline calibrator

Mean and variance of one metric, updated sample by sample.  The code computes in
double precision; here the numbers are exact.
-/

namespace RejiStudio.Orchestrator

def calibrationWindow : Nat := 180 * 1000000000

def minSamples : Nat := 60

inductive CancelReason where
  | constantValue
  | insufficientSamples
  deriving DecidableEq, Repr

inductive CalibrationOutcome where
  | calibrated (threshold : Int32)
  | cancelled (reason : CancelReason)
  deriving DecidableEq, Repr

structure BaselineCalibrator where
  count : Nat
  mean : Rat
  m2 : Rat
  min : UInt32
  max : UInt32

namespace BaselineCalibrator

def new : BaselineCalibrator := ⟨0, 0, 0, 4294967295, 0⟩

def observe (calibrator : BaselineCalibrator) (value : UInt32) : BaselineCalibrator :=
  let count := calibrator.count + 1
  let x : Rat := value.toNat
  let delta := x - calibrator.mean
  let mean := calibrator.mean + delta / count
  { count := count
    mean := mean
    m2 := calibrator.m2 + delta * (x - mean)
    min := if value < calibrator.min then value else calibrator.min
    max := if calibrator.max < value then value else calibrator.max }

/-- `bound ≤ mean + 3 * sqrt (m2 / count)`, without the square root. -/
def Reaches (calibrator : BaselineCalibrator) (bound : Rat) : Prop :=
  bound ≤ calibrator.mean ∨
    (bound - calibrator.mean) ^ 2 ≤ 9 * (calibrator.m2 / calibrator.count)

instance (calibrator : BaselineCalibrator) (bound : Rat) : Decidable (calibrator.Reaches bound) :=
  inferInstanceAs (Decidable (_ ∨ _))

/-- `mean + 3 * sigma`, rounded and clamped to `[50, 95]`: every candidate above
50 whose rounding interval is reached counts one. -/
def threshold (calibrator : BaselineCalibrator) : Int32 :=
  Int32.ofNat
    (50 + (List.range' 51 45).countP fun candidate : Nat =>
      calibrator.Reaches ((candidate : Rat) - 1 / 2))

def finalize (calibrator : BaselineCalibrator) : CalibrationOutcome :=
  if calibrator.count < minSamples then .cancelled .insufficientSamples
  else if calibrator.max = calibrator.min then .cancelled .constantValue
  else .calibrated calibrator.threshold

example :
    ((List.range 60).foldl (fun calibrator i => calibrator.observe (if i % 2 = 0 then 60 else 62))
      BaselineCalibrator.new).finalize = .calibrated 64 := by decide +kernel

end BaselineCalibrator

end RejiStudio.Orchestrator
