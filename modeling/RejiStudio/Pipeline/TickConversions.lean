import RejiStudio.Pipeline.FramePacer

/-!
# Ticks in microseconds

The metric sample and the clock of the send diagnosis multiply before they divide, the
capture source divides first.  Signed words wrap, unsigned ones as well.
-/

namespace RejiStudio.Pipeline

/-- The time stamp that `build_sample` writes into a sample. -/
def metricTimestampUs (frameStartTicks qpcFreq : Int64) : UInt64 :=
  (ticksToUs frameStartTicks qpcFreq).toUInt64

/-- `now_us` of the send diagnosis in `run_frame`. -/
def sendDiagNowUs (ticks freq : Int64) : UInt64 :=
  if 0 < freq then (ticks * 1000000 / freq).toUInt64 else 0

/-- `qpc_now_us` of the capture source for a counter that reads `ticks`. -/
def qpcNowUs (freq : UInt64) (ticks : Int64) : UInt64 :=
  if freq = 0 then 0
  else
    let ticks := ticks.toUInt64
    ticks / freq * 1000000 + ticks % freq * 1000000 / freq

/-- The three conversions give one value, and no product or sum on the way leaves its word. -/
structure ConversionsAgree (ticks freq : Int64) : Prop where
  metric : metricTimestampUs ticks freq = qpcNowUs freq.toUInt64 ticks
  sendDiag : sendDiagNowUs ticks freq = qpcNowUs freq.toUInt64 ticks
  signedProduct : ticks.toInt * 1000000 < 2 ^ 63
  quotientProduct : ticks.toUInt64.toNat / freq.toUInt64.toNat * 1000000 < 2 ^ 64
  remainderProduct : ticks.toUInt64.toNat % freq.toUInt64.toNat * 1000000 < 2 ^ 64
  sum : ticks.toUInt64.toNat / freq.toUInt64.toNat * 1000000 +
    ticks.toUInt64.toNat % freq.toUInt64.toNat * 1000000 / freq.toUInt64.toNat < 2 ^ 64

theorem toNat_toUInt64_cases (word : Int64) :
    (word.toUInt64.toNat : Int) = word.toInt ∨
      (word.toUInt64.toNat : Int) = word.toInt + 2 ^ 64 := by
  have bits : word.toUInt64.toNat = word.toBitVec.toNat := rfl
  have signed : word.toInt = word.toBitVec.toInt := rfl
  rw [bits, signed, BitVec.toInt_eq_toNat_cond]
  split <;> omega

theorem toNat_toUInt64_of_nonneg {word : Int64} (nonneg : 0 ≤ word) :
    (word.toUInt64.toNat : Int) = word.toInt := by
  have sign : 0 ≤ word.toInt := Int64.le_iff_toInt_le.mp nonneg
  have size := word.toUInt64.toNat_lt
  rcases toNat_toUInt64_cases word with same | shifted
  · exact same
  · omega

/-- Dividing first is exact: a microsecond has ten ticks. -/
theorem toNat_qpcNowUs {ticks : Int64} (nonneg : 0 ≤ ticks) :
    ((qpcNowUs 10000000 ticks).toNat : Int) = ticks.toInt / 10 := by
  have whole := toNat_toUInt64_of_nonneg nonneg
  have bound := ticks.toInt_lt
  have nonzero : ¬(10000000 : UInt64) = 0 := by decide
  rw [qpcNowUs, if_neg nonzero]
  dsimp only
  rw [UInt64.toNat_add, UInt64.toNat_mul, UInt64.toNat_div, UInt64.toNat_div, UInt64.toNat_mul,
    UInt64.toNat_mod]
  generalize ticks.toUInt64.toNat = count at whole ⊢
  change ((count / 10000000 * 1000000 % 2 ^ 64 +
    count % 10000000 * 1000000 % 2 ^ 64 / 10000000) % 2 ^ 64 : Nat) = ticks.toInt / 10
  have quotient : count / 10000000 * 1000000 % 2 ^ 64 = count / 10000000 * 1000000 :=
    Nat.mod_eq_of_lt (by omega)
  have remainder : count % 10000000 * 1000000 % 2 ^ 64 = count % 10000000 * 1000000 :=
    Nat.mod_eq_of_lt (by omega)
  have whole_ : count / 10000000 * 1000000 + count % 10000000 * 1000000 / 10000000 =
      count / 10 := by
    omega
  rw [quotient, remainder, whole_, Nat.mod_eq_of_lt (by omega)]
  omega

/-- Multiplying first gives the same value exactly if the product fits. -/
theorem metricTimestampUs_eq_iff {ticks : Int64} (nonneg : 0 ≤ ticks) :
    metricTimestampUs ticks 10000000 = qpcNowUs 10000000 ticks ↔
      ticks.toInt ≤ 9223372036854 := by
  have sign : 0 ≤ ticks.toInt := Int64.le_iff_toInt_le.mp nonneg
  have bound := ticks.toInt_lt
  have divided := toNat_qpcNowUs nonneg
  have word := toNat_toUInt64_cases (ticks * 1000000 / 10000000)
  have size := (ticks * 1000000 / 10000000).toUInt64.toNat_lt
  obtain ⟨wraps, positive, fits, below, exact_, small⟩ := toInt_microseconds sign
  rw [abs_le] at small
  rw [metricTimestampUs, ticksToUs, ← UInt64.toNat_inj]
  generalize (qpcNowUs 10000000 ticks).toNat = captured at divided ⊢
  generalize (ticks * 1000000 / 10000000).toUInt64.toNat = sampled at word size ⊢
  generalize (ticks * 1000000 / 10000000).toInt = quotient at word below exact_ small
  constructor
  · intro same
    apply fits.mp
    omega
  · intro low
    have value := exact_ (fits.mpr low)
    omega

theorem sendDiagNowUs_eq_metric {freq : Int64} (positive : 0 < freq) (ticks : Int64) :
    sendDiagNowUs ticks freq = metricTimestampUs ticks freq := by
  rw [sendDiagNowUs, if_pos positive]
  rfl

/-- At ten megahertz the three conversions agree exactly up to the last tick whose product
with a million fits in a signed word, the tick of an uptime of ten days and sixteen hours. -/
theorem conversions_agree_iff (ticks : Int64) (nonneg : 0 ≤ ticks) :
    ConversionsAgree ticks 10000000 ↔ ticks.toInt ≤ 9223372036854 := by
  have same := metricTimestampUs_eq_iff nonneg
  have diag : sendDiagNowUs ticks 10000000 = metricTimestampUs ticks 10000000 :=
    sendDiagNowUs_eq_metric (by decide) ticks
  constructor
  · intro agree
    exact same.mp agree.metric
  · intro low
    have whole := toNat_toUInt64_of_nonneg nonneg
    have frequency : (10000000 : Int64).toUInt64.toNat = 10000000 := rfl
    have metric := same.mpr low
    exact {
      metric := metric
      sendDiag := diag.trans metric
      signedProduct := by omega
      quotientProduct := by rw [frequency]; omega
      remainderProduct := by rw [frequency]; omega
      sum := by rw [frequency]; omega }

/-- An uptime of ten days. -/
theorem conversions_agree_tenDays :
    ConversionsAgree 8640000000000 10000000 ↔
      (8640000000000 : Int64).toInt ≤ 9223372036854 :=
  conversions_agree_iff 8640000000000 (by decide)

/-- After eleven days the sample is stamped with a time of half a million years. -/
theorem conversions_disagree_after_elevenDays :
    metricTimestampUs 9504000000000 10000000 = 18446743179435144246 ∧
      qpcNowUs 10000000 9504000000000 = 950400000000 ∧
      ¬ConversionsAgree 9504000000000 10000000 := by
  refine ⟨by decide +kernel, by decide +kernel, ?_⟩
  intro agree
  exact absurd agree.signedProduct (by decide)

end RejiStudio.Pipeline
