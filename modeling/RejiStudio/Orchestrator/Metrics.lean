import Mathlib.Algebra.Order.Ring.Rat
import RejiStudio.Lib.NearestEven
import RejiStudio.Orchestrator.Condition

/-!
# Metric samples and the events made of them

The drainer turns every sample into system events and media events.  A load
travels as a single precision ratio and is turned back into a percentage by the
monitor.
-/

namespace RejiStudio.Orchestrator

open RejiStudio.Lib

def metricMagic : UInt32 := 0xEEFF1234

structure MetricSample where
  magicHead : UInt32
  frameDrops : UInt32
  frameDropPct : UInt32
  memoryUsagePct : UInt32
  cpuLoadPct : UInt32
  gpuLoadPct : UInt32
  networkRttMs : UInt16
  networkLossPct : UInt8
  sourceId : UInt8
  magicTail : UInt32
  deriving DecidableEq

def MetricSample.isValid (sample : MetricSample) : Bool :=
  sample.magicHead == metricMagic && sample.magicTail == metricMagic

inductive SystemEvent where
  | cpuUsage (ratio : Rat)
  | gpuUsage (ratio : Rat)
  | memUsage (ratio : Rat)
  | diskWarning (freeMb : UInt64)
  | networkStats (rttMs : UInt32) (lossPct : Rat)
  deriving DecidableEq

inductive MediaEvent where
  | sourceDisconnected (sourceId : UInt32)
  | sourceReconnected (sourceId : UInt32)
  | frameDropped (count : UInt32)
  | frameDropPct (pct : UInt32)
  | encodeError (code : Int32)
  deriving DecidableEq

/-- `pct as f32 / 100.0`. -/
def ratioOfPercent (pct : UInt32) : Rat := single (single pct.toNat / 100)

/-- `(ratio * 100.0) as u32`, which truncates and saturates. -/
def percentOfRatio (ratio : Rat) : UInt32 :=
  UInt32.ofNat (min (single (ratio * 100)).floor.toNat (2 ^ 32 - 1))

/-- Only video samples carry system metrics; zero stands for missing data,
except for the CPU. -/
def systemEventsForSample (sample : MetricSample) : List SystemEvent :=
  if sample.sourceId ≠ 0 then
    []
  else
    [.cpuUsage (ratioOfPercent sample.cpuLoadPct)] ++
      (if 0 < sample.gpuLoadPct then [.gpuUsage (ratioOfPercent sample.gpuLoadPct)] else []) ++
      (if 0 < sample.memoryUsagePct then
        [.memUsage (ratioOfPercent sample.memoryUsagePct)] else []) ++
      (if 0 < sample.networkRttMs ∨ 0 < sample.networkLossPct then
        [.networkStats sample.networkRttMs.toUInt32 sample.networkLossPct.toNat] else [])

/-- The percentage of dropped frames is always sent, the counter only when it is
positive. -/
def mediaEventsForSample (sample : MetricSample) : List MediaEvent :=
  if sample.sourceId ≠ 0 then
    []
  else
    [.frameDropPct sample.frameDropPct] ++
      (if 0 < sample.frameDrops then [.frameDropped sample.frameDrops] else [])

def RuleMetrics.applySystem (metrics : RuleMetrics) : SystemEvent → RuleMetrics
  | .cpuUsage ratio => { metrics with cpuLoadPct := percentOfRatio ratio }
  | .gpuUsage ratio => { metrics with gpuLoadPct := percentOfRatio ratio }
  | .memUsage ratio => { metrics with memoryUsagePct := percentOfRatio ratio }
  | .diskWarning _ => metrics
  | .networkStats rttMs lossPct =>
      { metrics with
        networkRttMs := UInt16.ofNat (min rttMs.toNat (2 ^ 16 - 1))
        networkLossPct := UInt8.ofNat (max 0 (min lossPct 100)).floor.toNat }

def RuleMetrics.applyMedia (metrics : RuleMetrics) : MediaEvent → RuleMetrics
  | .frameDropPct pct => { metrics with frameDropPct := if pct ≤ 100 then pct else 100 }
  | .sourceDisconnected _ | .sourceReconnected _ | .frameDropped _ | .encodeError _ => metrics

def SurvivesRatio (pct : UInt32) : Prop := percentOfRatio (ratioOfPercent pct) = pct

instance (pct : UInt32) : Decidable (SurvivesRatio pct) :=
  inferInstanceAs (Decidable (_ = _))

theorem survivesRatio_iff {pct : UInt32} (percentage : pct ≤ 100) :
    SurvivesRatio pct ↔ pct ≠ 53 ∧ pct ≠ 59 := by
  have checked : ∀ n ∈ List.range 101,
      (SurvivesRatio (UInt32.ofNat n) ↔ UInt32.ofNat n ≠ 53 ∧ UInt32.ofNat n ≠ 59) := by
    decide +kernel
  have bound : pct.toNat < 101 := Nat.lt_succ_of_le (UInt32.le_iff_toNat_le.mp percentage)
  simpa using checked pct.toNat (List.mem_range.mpr bound)

end RejiStudio.Orchestrator
