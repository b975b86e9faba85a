import Mathlib.Algebra.Order.Group.Abs
import Mathlib.Algebra.Order.Group.Int
import Mathlib.Algebra.Order.Ring.Int
import Mathlib.Tactic.Common

/-!
# The clock of video and audio

The frame pacer turns ticks of the performance counter into microseconds since its
origin.  The audio capture stamps its packets in microseconds since boot, and the
capture callback moves them to the same origin.  All arithmetic is in signed words,
which wrap.
-/

namespace RejiStudio.Pipeline

/-- `ticks_to_us` of the frame pacer: the product comes before the quotient. -/
def ticksToUs (t freq : Int64) : Int64 := t * 1000000 / freq

structure FramePacer where
  qpcFreq : Int64
  frameTicks : Int64
  nextDeadline : Int64
  ptsOrigin : Int64
  deriving DecidableEq

namespace FramePacer

/-- `FramePacer::init`; the counter is read once for the origin and once for the
deadline. -/
def init (fps : UInt32) (qpcFreq : Option Int64) (originTicks deadlineTicks : Int64) :
    Option FramePacer :=
  if fps = 0 then none
  else
    match qpcFreq with
    | none => none
    | some freq =>
        if freq = 0 then none
        else
          let frameTicks := freq / fps.toUInt64.toInt64
          some {
            qpcFreq := freq
            frameTicks := frameTicks
            nextDeadline := deadlineTicks + frameTicks
            ptsOrigin := originTicks }

/-- The video stamp of a frame that was started at `frameStartTicks`. -/
def ptsUs (pacer : FramePacer) (frameStartTicks : Int64) : Int64 :=
  ticksToUs (frameStartTicks - pacer.ptsOrigin) pacer.qpcFreq

def originUs (pacer : FramePacer) : Int64 :=
  if 0 < pacer.qpcFreq then pacer.ptsOrigin * 1000000 / pacer.qpcFreq else 0

end FramePacer

/-- `rebase_audio_pts`: a stamp from before the origin becomes zero. -/
def rebaseAudioPts (audioPtsUs originUs : Int64) : Int64 :=
  let rebased := audioPtsUs - originUs
  if 0 < rebased then rebased else 0

/-- The stamp of a captured packet; the device counts units of 100 ns. -/
def capturePtsUs (qpc100ns : UInt64) : Int64 := (qpc100ns / 10).toInt64

def onAudioCapture (pacer : FramePacer) (qpc100ns : UInt64) : Int64 :=
  rebaseAudioPts (capturePtsUs qpc100ns) pacer.originUs

/-! ## Products that wrap -/

/-- A product in microseconds is off by a multiple of `2 ^ 64`, and by nothing
exactly when it fits. -/
theorem toInt_mul_million {t : Int64} (nonneg : 0 ≤ t.toInt) :
    ∃ wraps : Int, 0 ≤ wraps ∧
      (t * 1000000).toInt = t.toInt * 1000000 - 2 ^ 64 * wraps ∧
      (wraps = 0 ↔ t.toInt ≤ 9223372036854) := by
  refine ⟨(t.toInt * 1000000).bdiv (2 ^ 64), ?_⟩
  have product : (t * 1000000).toInt = (t.toInt * 1000000).bmod (2 ^ 64) := Int64.toInt_mul _ _
  have division : (t.toInt * 1000000).bmod (2 ^ 64) +
      2 ^ 64 * (t.toInt * 1000000).bdiv (2 ^ 64) = t.toInt * 1000000 := Int.bmod_add_bdiv _ _
  have below := (t * 1000000).toInt_lt
  have above := (t * 1000000).le_toInt
  have bound := t.toInt_lt
  rw [product] at below above ⊢
  generalize (t.toInt * 1000000).bdiv (2 ^ 64) = wraps at division ⊢
  generalize (t.toInt * 1000000).bmod (2 ^ 64) = word at division below above ⊢
  refine ⟨?_, ?_, ?_⟩ <;> omega

theorem toInt_div_ten_million (word : Int64) :
    (word / 10000000).toInt = word.toInt.tdiv 10000000 :=
  Int64.toInt_div_of_ne_right word 10000000 (by decide)

theorem tdiv_ten_million_bounds (value : Int) :
    value - 10000000 < 10000000 * value.tdiv 10000000 ∧
      10000000 * value.tdiv 10000000 < value + 10000000 ∧
      (0 ≤ value → value.tdiv 10000000 = value / 10000000) := by
  have division := Int.mul_tdiv_add_tmod value 10000000
  have below := Int.tmod_lt_of_pos value (show (0 : Int) < 10000000 by decide)
  have above := Int.lt_tmod_of_pos value (show (0 : Int) < 10000000 by decide)
  refine ⟨by omega, by omega, ?_⟩
  exact Int.tdiv_eq_ediv_of_nonneg

/-! ## Video and audio of one instant -/

/-- What one of the two quotients comes to: each wrap of its product puts it
`2 ^ 64 / 10 ^ 7` microseconds back. -/
theorem toInt_microseconds {t : Int64} (nonneg : 0 ≤ t.toInt) :
    ∃ wraps : Int, 0 ≤ wraps ∧ (wraps = 0 ↔ t.toInt ≤ 9223372036854) ∧
      10000000 * (t * 1000000 / 10000000).toInt <
        t.toInt * 1000000 - 2 ^ 64 * wraps + 10000000 ∧
      (wraps = 0 → (t * 1000000 / 10000000).toInt = t.toInt / 10) ∧
      |(t * 1000000 / 10000000).toInt| ≤ 922337203686 := by
  obtain ⟨wraps, positive, product, fits⟩ := toInt_mul_million nonneg
  have low := (t * 1000000).le_toInt
  have high := (t * 1000000).toInt_lt
  rw [toInt_div_ten_million]
  obtain ⟨below, above, exact⟩ := tdiv_ten_million_bounds (t * 1000000).toInt
  refine ⟨wraps, positive, fits, ?_, ?_, ?_⟩
  · rw [← product]
    exact above
  · intro none
    rw [none, Int.mul_zero, Int.sub_zero] at product
    rw [exact (by omega), product]
    omega
  · rw [abs_le]
    omega

theorem toInt_capturePtsUs {instant : Int64} (nonneg : 0 ≤ instant.toInt) :
    (capturePtsUs instant.toUInt64).toInt = instant.toInt / 10 := by
  have bound := instant.toInt_lt
  have ticks : instant.toUInt64.toNat = instant.toInt.toNat := by
    rw [Int64.toNat_toInt, Int64.toNat_toUInt64_of_le (Int64.le_iff_toInt_le.mpr nonneg)]
  have quotient : (instant.toUInt64 / 10).toNat = instant.toInt.toNat / 10 := by
    rw [UInt64.toNat_div, ticks]
    rfl
  rw [capturePtsUs, ← Int64.toInt_toBitVec, UInt64.toBitVec_toInt64,
    BitVec.toInt_eq_toNat_cond, UInt64.toNat_toBitVec, quotient]
  split <;> omega

theorem toInt_rebaseAudioPts {audioPtsUs originUs : Int64}
    (fits : -(2 ^ 63) ≤ audioPtsUs.toInt - originUs.toInt ∧
      audioPtsUs.toInt - originUs.toInt < 2 ^ 63) :
    (rebaseAudioPts audioPtsUs originUs).toInt =
      max 0 (audioPtsUs.toInt - originUs.toInt) := by
  have difference : (audioPtsUs - originUs).toInt = audioPtsUs.toInt - originUs.toInt := by
    rw [Int64.toInt_sub]
    exact Int.bmod_eq_of_le (by omega) (by omega)
  unfold rebaseAudioPts
  dsimp only
  split
  next positive =>
    rw [Int64.lt_iff_toInt_lt, difference] at positive
    rw [difference]
    exact (Int.max_eq_right (Int.le_of_lt positive)).symm
  next nonpositive =>
    rw [Int64.lt_iff_toInt_lt, difference] at nonpositive
    exact (Int.max_eq_left (Int.not_lt.mp nonpositive)).symm

namespace FramePacer

def Agree (pacer : FramePacer) (instant : Int64) : Prop :=
  |(onAudioCapture pacer instant.toUInt64).toInt - (pacer.ptsUs instant).toInt| ≤ 1

instance (pacer : FramePacer) (instant : Int64) : Decidable (pacer.Agree instant) :=
  inferInstanceAs (Decidable (_ ≤ _))

/-- Video and audio agree exactly while the origin, and the time since the origin,
are below `2 ^ 63` millionths of a tick: 922337 seconds at ten megahertz. -/
theorem audio_video_agree_iff (pacer : FramePacer) (instant : Int64)
    (frequency : pacer.qpcFreq = 10000000) (nonneg : 0 ≤ pacer.ptsOrigin)
    (after : pacer.ptsOrigin ≤ instant) :
    pacer.Agree instant ↔
      pacer.ptsOrigin.toInt * 1000000 < 2 ^ 63 ∧
        (instant.toInt - pacer.ptsOrigin.toInt) * 1000000 < 2 ^ 63 := by
  have originNonneg : 0 ≤ pacer.ptsOrigin.toInt := Int64.le_iff_toInt_le.mp nonneg
  have order : pacer.ptsOrigin.toInt ≤ instant.toInt := Int64.le_iff_toInt_le.mp after
  have bound := instant.toInt_lt
  have elapsed : (instant - pacer.ptsOrigin).toInt = instant.toInt - pacer.ptsOrigin.toInt := by
    rw [Int64.toInt_sub]
    exact Int.bmod_eq_of_le (by omega) (by omega)
  obtain ⟨videoWraps, videoPositive, videoFits, videoBelow, videoExact, videoSmall⟩ :=
    @toInt_microseconds (instant - pacer.ptsOrigin) (by omega)
  obtain ⟨originWraps, originPositive, originFits, originBelow, originExact, originSmall⟩ :=
    toInt_microseconds originNonneg
  have originUs : pacer.originUs = pacer.ptsOrigin * 1000000 / 10000000 := by
    rw [FramePacer.originUs, frequency, if_pos (by decide)]
  have videoUs : pacer.ptsUs instant = (instant - pacer.ptsOrigin) * 1000000 / 10000000 := by
    rw [ptsUs, ticksToUs, frequency]
  rw [← originUs] at originBelow originExact originSmall
  rw [← videoUs, elapsed] at videoBelow videoExact
  rw [elapsed] at videoFits
  have device : (capturePtsUs instant.toUInt64).toInt = instant.toInt / 10 :=
    toInt_capturePtsUs (by omega)
  have audio : (onAudioCapture pacer instant.toUInt64).toInt =
      max 0 (instant.toInt / 10 - pacer.originUs.toInt) := by
    rw [abs_le] at originSmall
    rw [onAudioCapture, toInt_rebaseAudioPts, device]
    rw [device]
    omega
  clear originSmall videoSmall videoUs originUs device nonneg after frequency
  rw [Agree, audio, abs_le]
  generalize pacer.originUs.toInt = originUs at *
  generalize (pacer.ptsUs instant).toInt = videoUs at *
  constructor
  · -- a wrap moves the difference by 2 ^ 64 / 10 ^ 7 microseconds, always the same way
    rintro ⟨_, close⟩
    have ahead := le_max_right 0 (instant.toInt / 10 - originUs)
    have unwrapped : originWraps = 0 ∧ videoWraps = 0 := by omega
    have originLow := originFits.mp unwrapped.1
    have elapsedLow := videoFits.mp unwrapped.2
    clear originBelow videoBelow close ahead
    omega
  · rintro ⟨originLow, elapsedLow⟩
    have originQuotient := originExact (originFits.mpr (by omega))
    have videoQuotient := videoExact (videoFits.mpr (by omega))
    rw [originQuotient, videoQuotient]
    have near : instant.toInt / 10 - pacer.ptsOrigin.toInt / 10 -
        (instant.toInt - pacer.ptsOrigin.toInt) / 10 ≤ 1 ∧
        0 ≤ instant.toInt / 10 - pacer.ptsOrigin.toInt / 10 -
          (instant.toInt - pacer.ptsOrigin.toInt) / 10 := by
      clear originBelow videoBelow originExact videoExact originFits videoFits
      omega
    have forward : 0 ≤ instant.toInt / 10 - pacer.ptsOrigin.toInt / 10 :=
      Int.sub_nonneg.mpr (Int.ediv_le_ediv (by decide) order)
    rw [max_eq_right forward]
    exact ⟨by omega, near.1⟩

def startedAt (originTicks : Int64) : FramePacer where
  qpcFreq := 10000000
  frameTicks := 166666
  nextDeadline := originTicks + 166666
  ptsOrigin := originTicks

/-- One hour after a start at an uptime of ten days. -/
theorem audio_video_agree_tenDays :
    (startedAt 8640000000003).Agree 8676000000010 ↔
      (8640000000003 : Int) * 1000000 < 2 ^ 63 ∧
        (8676000000010 - 8640000000003 : Int) * 1000000 < 2 ^ 63 :=
  audio_video_agree_iff (startedAt 8640000000003) 8676000000010 rfl (by decide) (by decide)

/-- A start at an uptime of eleven days: the origin in microseconds is negative, and
the audio stamp of the first instant is more than 21 days ahead of the video stamp. -/
theorem origin_wraps_after_elevenDays :
    FramePacer.init 60 (some 10000000) 9504000000000 9504000000000 =
        some (startedAt 9504000000000) ∧
      (startedAt 9504000000000).originUs = -894274407370 ∧
      onAudioCapture (startedAt 9504000000000) (9504000000000 : Int64).toUInt64 =
        1844674407370 ∧
      (startedAt 9504000000000).ptsUs 9504000000000 = 0 ∧
      ¬(startedAt 9504000000000).Agree 9504000000000 := by
  decide +kernel

end FramePacer

end RejiStudio.Pipeline
