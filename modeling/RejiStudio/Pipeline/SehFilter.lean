import Mathlib.Algebra.Order.Ring.Int
import RejiStudio.Lib.FixedWindow
import RejiStudio.Lib.Machine

/-!
# Escalation of access violations

A site counts its access violations in fixed windows: it keeps the opening of the window in
force and the count of it, not the times.  Each site is used by one thread, so a call is one
step.
-/

namespace RejiStudio.Pipeline

open RejiStudio.Lib

/-- `SehSite`; its `Count`, which is not a site, is left out with the check for it. -/
inductive SehSite where
  | cmdDrain
  | wsDequeue
  | getWsPort
  | startMonitor
  | uninitCom
  | shutdownSubsys
  | srtSend
  | metricsPush
  | connectionLost
  | copyOptWait
  | copyOptShutdown
  | wasapiGetBuffer
  | wasapiReleaseBuffer
  | wasapiNextPacket
  | wasapiAudioStop
  | wasapiShutdownLeaf
  | srtLeafSendmsg
  | srtLeafClose
  | srtLeafEpollRelease
  | srtLeafSetsockopt
  | srtLeafGlobalCleanup
  deriving DecidableEq

def sehAvWindowMs : UInt64 := 60000

def sehAvThreshold : UInt32 := 3

/-- `g_av_window_ms` and `g_av_count`. -/
structure AvCounters where
  windowMs : SehSite → UInt64
  count : SehSite → UInt32

def AvCounters.registerAv (counters : AvCounters) (site : SehSite) (nowMs : UInt64) :
    AvCounters × Bool :=
  let start := counters.windowMs site
  if sehAvWindowMs < nowMs - start then
    ({ windowMs := Function.update counters.windowMs site nowMs
       count := Function.update counters.count site 1 }, decide (sehAvThreshold ≤ 1))
  else
    let cnt := counters.count site + 1
    ({ counters with count := Function.update counters.count site cnt },
      decide (sehAvThreshold ≤ cnt))

/-- A call of `seh_register_av` and its answer. -/
structure AccessViolation where
  site : SehSite
  nowMs : UInt64
  escalates : Bool
  deriving DecidableEq

/-- `violations` is history. -/
structure AvRun where
  counters : AvCounters
  violations : List AccessViolation

namespace AvRun

def start : AvRun := ⟨⟨fun _ => 0, fun _ => 0⟩, []⟩

def timesAt (site : SehSite) (violations : List AccessViolation) : List Nat :=
  (violations.filter fun violation => violation.site = site).map fun violation =>
    violation.nowMs.toNat

def step : Machine AvRun (SehSite × UInt64) := fun run (site, nowMs) =>
  if ∀ time ∈ timesAt site run.violations, time ≤ nowMs.toNat then
    let (counters, escalates) := run.counters.registerAv site nowMs
    some ⟨counters, run.violations ++ [⟨site, nowMs, escalates⟩]⟩
  else none

theorem timesAt_concat_self (violations : List AccessViolation) (violation : AccessViolation) :
    timesAt violation.site (violations ++ [violation]) =
      timesAt violation.site violations ++ [violation.nowMs.toNat] := by
  simp [timesAt, List.filter_append]

theorem timesAt_concat_other {site : SehSite} {violation : AccessViolation}
    (other : violation.site ≠ site) (violations : List AccessViolation) :
    timesAt site (violations ++ [violation]) = timesAt site violations := by
  simp [timesAt, List.filter_append, other]

/-- The answer says whether the violation is the third of its window; the count is a word. -/
def Windowed (earlier : List AccessViolation) (violation : AccessViolation) : Prop :=
  violation.escalates = true ↔
    3 ≤ inWindow 60000 (timesAt violation.site (earlier ++ [violation])) % 2 ^ 32

structure Invariant (run : AvRun) : Prop where
  windowMs : ∀ site, (run.counters.windowMs site).toNat =
    windowStart 60000 (timesAt site run.violations)
  count : ∀ site, (run.counters.count site).toNat =
    inWindow 60000 (timesAt site run.violations) % 2 ^ 32
  windowed : ∀ earlier violation, earlier ++ [violation] <+: run.violations →
    Windowed earlier violation

theorem start_invariant : start.Invariant where
  windowMs := fun _ => rfl
  count := fun _ => rfl
  windowed := by
    intro earlier violation reached
    simp [start] at reached

theorem registerAv_spec {run : AvRun} (invariant : run.Invariant) {site : SehSite}
    {nowMs : UInt64} (latest : ∀ time ∈ timesAt site run.violations, time ≤ nowMs.toNat) :
    let called := run.counters.registerAv site nowMs
    (called.1.windowMs site).toNat =
        windowStart 60000 (timesAt site run.violations ++ [nowMs.toNat]) ∧
      (called.1.count site).toNat =
        inWindow 60000 (timesAt site run.violations ++ [nowMs.toNat]) % 2 ^ 32 ∧
      (called.2 = true ↔ 3 ≤ (called.1.count site).toNat) ∧
      ∀ other, other ≠ site →
        called.1.windowMs other = run.counters.windowMs other ∧
          called.1.count other = run.counters.count other := by
  have started := invariant.windowMs site
  have counted := invariant.count site
  have reached := windowStart_le 60000 latest
  have opens : sehAvWindowMs < nowMs - run.counters.windowMs site ↔
      windowStart 60000 (timesAt site run.violations) + 60000 < nowMs.toNat := by
    have elapsed : (nowMs - run.counters.windowMs site).toNat =
        nowMs.toNat - windowStart 60000 (timesAt site run.violations) := by
      rw [← started]
      exact UInt64.toNat_sub_of_le _ _ (UInt64.le_iff_toNat_le.mpr (by omega))
    rw [UInt64.lt_iff_toNat_lt, elapsed]
    change 60000 < _ ↔ _
    omega
  intro called
  rw [windowStart_concat, inWindow_concat 60000 latest]
  by_cases opened : windowStart 60000 (timesAt site run.violations) + 60000 < nowMs.toNat
  · have result : called = _ := if_pos (opens.mpr opened)
    rw [result, if_pos opened, if_pos opened]
    refine ⟨by simp, by simp, by simp [sehAvThreshold], ?_⟩
    intro other different
    exact ⟨Function.update_of_ne different .., Function.update_of_ne different ..⟩
  · have result : called = _ := if_neg fun crossed => opened (opens.mp crossed)
    rw [result, if_neg opened, if_neg opened]
    refine ⟨started, ?_, ?_, ?_⟩
    · simp [UInt32.toNat_add, counted, Nat.add_mod]
    · simp [sehAvThreshold, UInt32.le_iff_toNat_le]
    · intro other different
      exact ⟨rfl, Function.update_of_ne different ..⟩

theorem step_cases {run next : AvRun} {site : SehSite} {nowMs : UInt64}
    (stepped : step run (site, nowMs) = some next) :
    (∀ time ∈ timesAt site run.violations, time ≤ nowMs.toNat) ∧
      next = ⟨(run.counters.registerAv site nowMs).1,
        run.violations ++ [⟨site, nowMs, (run.counters.registerAv site nowMs).2⟩]⟩ := by
  unfold step at stepped
  dsimp only at stepped
  split at stepped
  next latest =>
    cases stepped
    exact ⟨latest, rfl⟩
  next => cases stepped

theorem step_invariant {run next : AvRun} {action : SehSite × UInt64}
    (invariant : run.Invariant) (stepped : step run action = some next) : next.Invariant := by
  obtain ⟨site, nowMs⟩ := action
  obtain ⟨latest, rfl⟩ := step_cases stepped
  obtain ⟨windowMs, count, escalates, others⟩ := registerAv_spec invariant latest
  generalize run.counters.registerAv site nowMs = outcome at windowMs count escalates others ⊢
  have own : timesAt site (run.violations ++ [⟨site, nowMs, outcome.2⟩]) =
      timesAt site run.violations ++ [nowMs.toNat] := timesAt_concat_self _ ⟨site, nowMs, outcome.2⟩
  constructor
  · intro other
    by_cases same : other = site
    · rw [same, own]
      exact windowMs
    · rw [timesAt_concat_other (Ne.symm same), (others other same).1]
      exact invariant.windowMs other
  · intro other
    by_cases same : other = site
    · rw [same, own]
      exact count
    · rw [timesAt_concat_other (Ne.symm same), (others other same).2]
      exact invariant.count other
  · intro earlier violation reached
    rcases List.prefix_concat_iff.mp reached with whole | before
    · obtain ⟨rfl, last⟩ := List.append_inj' whole rfl
      cases last
      rw [Windowed, own, ← count]
      exact escalates
    · exact invariant.windowed earlier violation before

/-- A violation escalates exactly if it is at least the third of its window, counted in a
word of 32 bits, and then there were three in the last minute. -/
theorem escalation_windowed (actions : List (SehSite × UInt64)) (finish : AvRun)
    (executed : Machine.exec step start actions = some finish)
    (earlier : List AccessViolation) (violation : AccessViolation)
    (reached : earlier ++ [violation] <+: finish.violations) :
    let times := timesAt violation.site (earlier ++ [violation])
    (violation.escalates = true ↔ 3 ≤ inWindow 60000 times % 2 ^ 32) ∧
      (violation.escalates = true → 3 ≤ recent 60000 violation.nowMs.toNat times) := by
  have invariant : finish.Invariant := Machine.exec_invariant
    (fun _ _ _ invariant stepped => step_invariant invariant stepped) start_invariant executed
  have windowed := invariant.windowed earlier violation reached
  refine ⟨windowed, ?_⟩
  intro escalates
  calc
    3 ≤ inWindow 60000 (timesAt violation.site (earlier ++ [violation])) % 2 ^ 32 :=
      windowed.mp escalates
    _ ≤ inWindow 60000 (timesAt violation.site (earlier ++ [violation])) := Nat.mod_le _ _
    _ ≤ recent 60000 violation.nowMs.toNat (timesAt violation.site (earlier ++ [violation])) := by
      rw [timesAt_concat_self]
      exact inWindow_le_recent 60000

/-- Three violations within twenty seconds. -/
theorem escalation_windowed_burst :
    ∃ finish, Machine.exec step start
        [(.cmdDrain, 100000), (.cmdDrain, 110000), (.cmdDrain, 120000)] = some finish ∧
      3 ≤ recent 60000 120000 (timesAt .cmdDrain finish.violations) := by
  have ran : ∃ counters, Machine.exec step start
      [(.cmdDrain, 100000), (.cmdDrain, 110000), (.cmdDrain, 120000)] =
        some ⟨counters, [⟨.cmdDrain, 100000, false⟩, ⟨.cmdDrain, 110000, false⟩] ++
          [⟨.cmdDrain, 120000, true⟩]⟩ := ⟨_, rfl⟩
  obtain ⟨counters, executed⟩ := ran
  exact ⟨_, executed,
    (escalation_windowed _ _ executed _ ⟨.cmdDrain, 120000, true⟩ (List.prefix_refl _)).2 rfl⟩

/-- Three violations within eight seconds, on both sides of the end of a window. -/
theorem straddling_burst_ignored :
    ∃ finish earlier violation, Machine.exec step start
        [(.cmdDrain, 100000), (.cmdDrain, 155000), (.cmdDrain, 161000), (.cmdDrain, 162000)] =
        some finish ∧
      finish.violations = earlier ++ [violation] ∧
      ¬(violation.escalates = true ↔
        3 ≤ recent 60000 violation.nowMs.toNat
          (timesAt violation.site (earlier ++ [violation]))) := by
  refine ⟨_, [⟨.cmdDrain, 100000, false⟩, ⟨.cmdDrain, 155000, false⟩,
    ⟨.cmdDrain, 161000, false⟩], ⟨.cmdDrain, 162000, false⟩, rfl, rfl, ?_⟩
  decide

end AvRun

end RejiStudio.Pipeline
