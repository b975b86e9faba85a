import RejiStudio.Lib.RoundingError
import RejiStudio.Orchestrator.Monitor
import RejiStudio.Pipeline.CommandRouter

/-!
# From the parameters of a rule to an operation of the encoder

The rule engine packs the parameters of a rule into two words, the pipeline reads one of
them and calls the encoder.  The schema of the rules says what the outcome should be.
-/

namespace RejiStudio.Pipeline

open RejiStudio.Lib RejiStudio.Orchestrator RejiStudio.Ws

/-! ## What the encoder is told -/

inductive EncoderOperation where
  | setBitrate (kbps : UInt32)
  | setResolution (scale : Rat)
  | setFpsLimit (fps : UInt32)
  deriving DecidableEq

/-- `apply_frame_cmd` with an encoder: the call it makes.  The scale is a quotient in
single precision. -/
def FrameCmd.encoderOperation (cmd : FrameCmd) : Option EncoderOperation :=
  match cmd.actionType with
  | .bitrateReduce | .bitrateRecover =>
      if 0 < cmd.param1 then some (.setBitrate cmd.param1.toUInt32) else none
  | .scaleResolution | .restoreResolution =>
      some (.setResolution (single (single cmd.param1.toInt / 1000)))
  | .capFps => some (.setFpsLimit cmd.param1.toUInt32)
  | .restoreFps | .logOnly => none

/-- What `apply_action` and `apply_frame_cmd` make of an action, with an encoder and a free
slot in the ring between them. -/
def actuate (cfg : Config) (current : UInt32) (action : RjAction) : Option EncoderOperation :=
  (applyAction cfg current action).1.bind FrameCmd.encoderOperation

/-- The bitrate that the pipeline remembers is the one the encoder was given. -/
theorem applyFrameCmd_bitrateKbps (s : Impl) (cmd : FrameCmd) (encoder : s.encoder = true) :
    (s.applyFrameCmd cmd).bitrateKbps =
      match cmd.encoderOperation with
      | some (.setBitrate kbps) => kbps
      | _ => s.bitrateKbps := by
  unfold Impl.applyFrameCmd FrameCmd.encoderOperation
  rw [if_pos encoder]
  cases cmd.actionType with
  | bitrateReduce | bitrateRecover =>
      by_cases positive : 0 < cmd.param1
      · simp [positive]
      · simp [positive]
  | scaleResolution | restoreResolution | capFps | restoreFps | logOnly => rfl

def rjAction (id : UInt32) (action : Action) : RjAction :=
  ⟨id, action.actionType, action.param1, action.param2, 0⟩

/-! ## What the schema says -/

def integerValue : Value → Option Int
  | .posInt value => some value.toNat
  | .negInt value => some value.toInt
  | _ => none

/-- A parameter of another type counts as missing, here as in the schema. -/
def integerParam (params : List (String × Value)) (key : String) : Option Int :=
  (params.lookup key).bind integerValue

/-- The resolution factor; a rule without one keeps the full resolution. -/
def scaleFactor (params : List (String × Value)) : Rat :=
  ((params.lookup "scale_factor").bind Value.asF64).getD 1

/-- The bitrate after a reduction: a step down, or fifteen percent without a step, and
not below the floor. -/
def reducedTarget (cfg : Config) (current : UInt32) : Option Int → Int
  | some step => max (current.toNat - step) cfg.minBitrateKbps.toNat
  | none => max (mulSingle current 14260634 24).toNat cfg.minBitrateKbps.toNat

/-- The bitrate after a recovery: a step up, or fifteen percent without a step, and not
above the original one. -/
def recoveredTarget (cfg : Config) (current : UInt32) : Option Int → Int
  | some step => min (current.toNat + step) cfg.originalBitrateKbps.toNat
  | none => min (mulSingle current 9646899 23).toNat cfg.originalBitrateKbps.toNat

/-- The two are the same to a thousandth, or both stand for the original size, which
`set_resolution` never exceeds, or it refuses both. -/
def SameScale (factor scale : Rat) : Prop :=
  |scale - factor| ≤ 1 / 1000 ∨ 1 ≤ factor ∧ 1 ≤ scale ∨ factor ≤ 0 ∧ scale ≤ 0

/-- The step by which `apply_action` moves the bitrate, `none` for fifteen percent. -/
def bitrateStep (param1 : Int32) : Option Int := if 0 < param1 then some param1.toInt else none

def SetsBitrate (operation : Option EncoderOperation) (target : Int) : Prop :=
  ∃ kbps, operation = some (.setBitrate kbps) ∧ (kbps.toNat : Int) = target

def MatchesSchema (actionType : ActionType) (params : List (String × Value)) (cfg : Config)
    (current : UInt32) (action : RjAction) : Prop :=
  let step := integerParam params "step_kbps"
  let operation := actuate cfg current action
  match actionType with
  | .bitrateReduce =>
      bitrateStep action.param1 = step ∧ SetsBitrate operation (reducedTarget cfg current step)
  | .bitrateRecover =>
      bitrateStep action.param1 = step ∧
        if current < cfg.originalBitrateKbps then
          SetsBitrate operation (recoveredTarget cfg current step)
        else operation = none
  | .scaleResolution =>
      ∃ scale, operation = some (.setResolution scale) ∧ SameScale (scaleFactor params) scale
  | .restoreResolution => ∃ scale, operation = some (.setResolution scale) ∧ 1 ≤ scale
  | .capFps =>
      ∃ limit, operation = some (.setFpsLimit limit) ∧
        integerParam params "fps_limit" = some (limit.toNat : Int)
  | .restoreFps => operation = some (.setFpsLimit cfg.fps)
  | .logOnly => True

/-! ## When they agree -/

def StepFits (params : List (String × Value)) : Prop :=
  ∀ step, integerParam params "step_kbps" = some step → 0 < step ∧ step < 2 ^ 31

def TargetFits (target : Int) : Prop := 0 < target ∧ target < 2 ^ 31

/-- The `step_kbps` that a rule with another action happens to have. -/
def strayStep (params : List (String × Value)) : Int :=
  ((integerParam params "step_kbps").filter fun step => step < 2 ^ 63).getD 0

def AgreesWhen (actionType : ActionType) (params : List (String × Value)) (cfg : Config)
    (current : UInt32) : Prop :=
  let step := integerParam params "step_kbps"
  match actionType with
  | .bitrateReduce => StepFits params ∧ TargetFits (reducedTarget cfg current step)
  | .bitrateRecover =>
      StepFits params ∧
        (current < cfg.originalBitrateKbps → TargetFits (recoveredTarget cfg current step))
  | .scaleResolution => True
  | .restoreResolution => 999.5 ≤ roundRational doublePrecision (scaleFactor params * 1000)
  | .capFps => integerParam params "fps_limit" = some (strayStep params % 2 ^ 32)
  | .restoreFps => False
  | .logOnly => True

/-! ## Steps -/

theorem bitrateStep_eq_some_iff {word : Int32} {step : Int}
    (wraps : word.toInt = step.bmod (2 ^ 32)) :
    bitrateStep word = some step ↔ 0 < step ∧ step < 2 ^ 31 := by
  have sign : 0 < word ↔ 0 < word.toInt := Int32.lt_iff_toInt_lt
  unfold bitrateStep
  rw [Int.bmod_def] at wraps
  split
  next positive =>
    have above := sign.mp positive
    rw [Option.some.injEq]
    split at wraps <;> omega
  next nonpositive =>
    have below := mt sign.mpr nonpositive
    simp only [reduceCtorEq, false_iff]
    split at wraps <;> omega

/-- What `create_action` reads as a step is the integer modulo the word, and zero when it
is not an `i64`. -/
theorem toInt_intParam_step (params : List (String × Value)) :
    (intParam params "step_kbps").toInt = (strayStep params).bmod (2 ^ 32) := by
  unfold intParam strayStep integerParam
  rw [Int64.toInt_toInt32]
  congr 1
  cases params.lookup "step_kbps" with
  | none => rfl
  | some value =>
      cases value with
      | posInt number =>
          have bound := number.toNat_lt
          by_cases fits : number.toNat < 2 ^ 63
          · have fitsInt : (number.toNat : Int) < 2 ^ 63 := by exact_mod_cast fits
            have same : number.toInt64.toInt = number.toNat := by
              have cast : number.toInt64.toInt = number.toBitVec.toInt := rfl
              rw [cast, BitVec.toInt_eq_toNat_cond]
              have word : number.toBitVec.toNat = number.toNat := rfl
              rw [word, if_pos (by omega)]
            simp only [Option.bind_some, Value.asI64, integerValue, if_pos fits,
              Option.filter_some, decide_eq_true fitsInt, if_true, Option.getD_some, same]
          · have large : ¬(number.toNat : Int) < 2 ^ 63 := by exact_mod_cast fits
            simp only [Option.bind_some, Value.asI64, integerValue, if_neg fits,
              Option.filter_some, decide_eq_false large, Option.getD_none]
            rfl
      | negInt number =>
          have fits : number.toInt < 2 ^ 63 := number.toInt_lt
          simp only [Option.bind_some, Value.asI64, integerValue, Option.filter_some,
            decide_eq_true fits, if_true, Option.getD_some]
      | null | bool | float | string | array | object => rfl

/-- The step that is used is the one that the rule gives exactly if it fits. -/
theorem bitrateStep_intParam_iff (params : List (String × Value)) :
    bitrateStep (intParam params "step_kbps") = integerParam params "step_kbps" ↔
      StepFits params := by
  have word := toInt_intParam_step params
  have none_ : ∀ w : Int32, w.toInt = 0 → bitrateStep w = none := by
    intro w zero
    have sign : 0 < w ↔ 0 < w.toInt := Int32.lt_iff_toInt_lt
    rw [bitrateStep, if_neg]
    rw [sign, zero]
    exact lt_irrefl 0
  unfold StepFits
  unfold strayStep at word
  cases given : integerParam params "step_kbps" with
  | none =>
      rw [given] at word
      simp [none_ _ word]
  | some step =>
      rw [given, Option.filter_some] at word
      by_cases fits : step < 2 ^ 63
      · simp only [decide_eq_true fits, if_true, Option.getD_some] at word
        simp [bitrateStep_eq_some_iff word]
      · simp only [decide_eq_false fits, Bool.false_eq_true, if_false, Option.getD_none] at word
        simp only [none_ _ word, reduceCtorEq, Option.some.injEq, forall_eq', false_iff]
        omega

theorem toNat_toUInt32_intParam (params : List (String × Value)) :
    ((intParam params "step_kbps").toUInt32.toNat : Int) = strayStep params % 2 ^ 32 := by
  have word := toInt_intParam_step params
  have bound := (intParam params "step_kbps").toUInt32.toNat_lt
  have cast : (intParam params "step_kbps").toInt =
      (intParam params "step_kbps").toUInt32.toBitVec.toInt := rfl
  rw [cast, BitVec.toInt_eq_toNat_cond, UInt32.toNat_toBitVec, Int.bmod_def] at word
  split at word <;> split at word <;> omega

/-! ## Bitrates -/

theorem encoderOperation_bitrate {actionType : ActionType}
    (kind : actionType = .bitrateReduce ∨ actionType = .bitrateRecover) (kbps : UInt32) :
    (FrameCmd.mk actionType kbps.toInt32).encoderOperation =
      if 0 < kbps.toNat ∧ kbps.toNat < 2 ^ 31 then some (.setBitrate kbps) else none := by
  have sign := toInt32_pos_iff kbps
  unfold FrameCmd.encoderOperation
  rcases kind with rfl | rfl
  all_goals simp only [UInt32.toUInt32_toInt32, sign]

theorem setsBitrate_ite {kbps : UInt32} {target : Int} (same : (kbps.toNat : Int) = target) :
    SetsBitrate (if 0 < kbps.toNat ∧ kbps.toNat < 2 ^ 31 then some (.setBitrate kbps) else none)
      target ↔ TargetFits target := by
  unfold SetsBitrate TargetFits
  split
  next fits =>
    simp only [Option.some.injEq, EncoderOperation.setBitrate.injEq, exists_eq_left']
    omega
  next unfit =>
    simp only [reduceCtorEq, false_and, exists_false, false_iff]
    omega

theorem toInt_toUInt32_of_pos {word : Int32} {step : Int} (used : bitrateStep word = some step) :
    0 < word ∧ (word.toUInt32.toNat : Int) = step ∧ step < 2 ^ 31 := by
  obtain ⟨positive, same⟩ := Option.ite_none_right_eq_some.mp used
  cases same
  obtain ⟨-, bound⟩ := toUInt32_of_pos positive
  have cast : word.toInt = word.toUInt32.toBitVec.toInt := rfl
  have value : (word.toUInt32.toNat : Int) = word.toInt := by
    rw [cast, BitVec.toInt_eq_toNat_cond, UInt32.toNat_toBitVec, if_pos (by omega)]
  exact ⟨positive, value, by omega⟩

theorem nonpositive_of_bitrateStep {word : Int32} (used : bitrateStep word = none) :
    ¬0 < word := by
  intro positive
  rw [bitrateStep, if_pos positive] at used
  cases used

/-- The new bitrate of a reduction is the described one when the step is. -/
theorem toNat_reduced (cfg : Config) (current : UInt32) (word : Int32) :
    ((max (reduceStepBitrate current word) cfg.minBitrateKbps).toNat : Int) =
      reducedTarget cfg current (bitrateStep word) := by
  rw [toNat_max]
  cases used : bitrateStep word with
  | none =>
      have fallback := nonpositive_of_bitrateStep used
      rw [reduceStepBitrate, if_neg fallback]
      simp only [reducedTarget]
      omega
  | some step =>
      obtain ⟨positive, value, -⟩ := toInt_toUInt32_of_pos used
      rw [toNat_reduceStepBitrate current positive]
      simp only [reducedTarget]
      omega

theorem setsBitrate_reduced (cfg : Config) (current id : UInt32) (word second : Int32) :
    SetsBitrate (actuate cfg current ⟨id, .bitrateReduce, word, second, 0⟩)
      (reducedTarget cfg current (bitrateStep word)) ↔
      TargetFits (reducedTarget cfg current (bitrateStep word)) := by
  have same := toNat_reduced cfg current word
  unfold actuate applyAction
  rw [Option.bind_some, encoderOperation_bitrate (.inl rfl)]
  exact setsBitrate_ite same

/-- The new bitrate of a recovery is the described one: a sum that wraps stands for a
target that does not fit. -/
theorem setsBitrate_recovered {cfg : Config} {current : UInt32}
    (below : current < cfg.originalBitrateKbps) (id : UInt32) (word second : Int32) :
    SetsBitrate (actuate cfg current ⟨id, .bitrateRecover, word, second, 0⟩)
      (recoveredTarget cfg current (bitrateStep word)) ↔
      TargetFits (recoveredTarget cfg current (bitrateStep word)) := by
  have least := toNat_min (recoverStepBitrate current word) cfg.originalBitrateKbps
  simp only [actuate, applyAction, if_pos below, Option.bind_some]
  rw [encoderOperation_bitrate (.inr rfl)]
  cases used : bitrateStep word with
  | none =>
      apply setsBitrate_ite
      rw [least, recoverStepBitrate, if_neg (nonpositive_of_bitrateStep used)]
      simp only [recoveredTarget]
      omega
  | some step =>
      obtain ⟨positive, value, bound⟩ := toInt_toUInt32_of_pos used
      have belowNat : current.toNat < cfg.originalBitrateKbps.toNat :=
        UInt32.lt_iff_toNat_lt.mp below
      have originalBound := cfg.originalBitrateKbps.toNat_lt
      rw [recoverStepBitrate, if_pos positive, UInt32.toNat_add] at least
      by_cases whole : current.toNat + word.toUInt32.toNat < 2 ^ 32
      · apply setsBitrate_ite
        rw [Nat.mod_eq_of_lt whole] at least
        rw [recoverStepBitrate, if_pos positive, least]
        simp only [recoveredTarget]
        omega
      · have unfit : ¬TargetFits (recoveredTarget cfg current (some step)) := by
          simp only [TargetFits, recoveredTarget]
          omega
        refine iff_of_false ?_ unfit
        rintro ⟨kbps, operation, same⟩
        obtain ⟨fits, set⟩ := Option.ite_none_right_eq_some.mp operation
        cases set
        simp only [recoveredTarget] at same
        rw [recoverStepBitrate, if_pos positive] at fits same
        omega

/-! ## Scales -/

theorem single_error (value : Rat) : |single value - value| ≤ |value| / 2 ^ 23 := by
  have error := abs_roundRational_sub_le (by decide : 0 < 24) value
  have same : (2 : Rat) / 2 ^ 24 * |value| = |value| / 2 ^ 23 := by ring
  rw [same] at error
  exact error

theorem thousandths_error (word : Int) :
    |single (single word / 1000) - word / 1000| ≤ |(word : Rat)| / 1000 / 2 ^ 21 := by
  have first := single_error (word : Rat)
  have second := single_error (single (word : Rat) / 1000)
  have quotient : |single (word : Rat) / 1000| = |single (word : Rat)| / 1000 := by
    rw [abs_div, abs_of_pos (by norm_num : (0 : Rat) < 1000)]
  rw [quotient] at second
  have size : |single (word : Rat)| ≤ |(word : Rat)| + |(word : Rat)| / 2 ^ 23 := by
    have triangle := abs_sub_abs_le_abs_sub (single (word : Rat)) word
    linarith
  have nonnegative := abs_nonneg (word : Rat)
  obtain ⟨firstLow, firstHigh⟩ := abs_le.mp first
  obtain ⟨secondLow, secondHigh⟩ := abs_le.mp second
  rw [abs_le]
  constructor <;> linarith

theorem scale_nonpos {word : Int} (nonpositive : word ≤ 0) :
    single (single (word : Rat) / 1000) ≤ 0 := by
  have below : (word : Rat) ≤ 0 := by exact_mod_cast nonpositive
  have error := thousandths_error word
  rw [abs_of_nonpos below] at error
  have high := (abs_le.mp error).2
  linarith

theorem one_le_scale_iff (word : Int) :
    1 ≤ single (single (word : Rat) / 1000) ↔ 1000 ≤ word := by
  have error := thousandths_error word
  constructor
  · intro reached
    by_contra below
    rcases lt_or_ge 0 word with positive | nonpositive
    · have above : (0 : Rat) < word := by exact_mod_cast positive
      have atMost : (word : Rat) ≤ 999 := by exact_mod_cast (by omega : word ≤ 999)
      rw [abs_of_pos above] at error
      have high := (abs_le.mp error).2
      linarith
    · have refused := scale_nonpos nonpositive
      linarith
  · intro large
    rcases Int.lt_or_eq_of_le large with above | rfl
    · have atLeast : (1001 : Rat) ≤ word := by exact_mod_cast (by omega : 1001 ≤ word)
      rw [abs_of_pos (by linarith : (0 : Rat) < word)] at error
      have low := (abs_le.mp error).1
      linarith
    · decide +kernel

theorem toInt_scaleParam (params : List (String × Value)) :
    (scaleParam params).toInt = max (-2 ^ 31) (min (roundHalfAway
      (roundRational doublePrecision (scaleFactor params * 1000))) (2 ^ 31 - 1)) := by
  show (saturateInt32 _).toInt = _
  unfold saturateInt32
  rw [Int32.toInt_ofInt_of_le (by omega) (by omega)]
  rfl

theorem double_error (value : Rat) :
    |roundRational doublePrecision value - value| ≤ |value| / 2 ^ 52 := by
  have error := abs_roundRational_sub_le (by decide : 0 < doublePrecision) value
  have same : (2 : Rat) / 2 ^ doublePrecision * |value| = |value| / 2 ^ 52 := by
    simp only [doublePrecision]
    ring
  rw [same] at error
  exact error

theorem thousand_le_scaleParam_iff (params : List (String × Value)) :
    1000 ≤ (scaleParam params).toInt ↔
      999.5 ≤ roundRational doublePrecision (scaleFactor params * 1000) := by
  have reached := @le_roundHalfAway_iff
    (roundRational doublePrecision (scaleFactor params * 1000)) 1000 (by norm_num)
  have half : ((1000 : Int) : Rat) - 1 / 2 = 999.5 := by norm_num
  rw [half] at reached
  rw [toInt_scaleParam, ← reached]
  omega

theorem sameScale_scaleParam (params : List (String × Value)) :
    SameScale (scaleFactor params)
      (single (single ((scaleParam params).toInt : Rat) / 1000)) := by
  set factor := scaleFactor params with factorDef
  set product := roundRational doublePrecision (factor * 1000) with productDef
  have word := toInt_scaleParam params
  rw [← factorDef, ← productDef] at word
  have error : |product - factor * 1000| ≤ |factor * 1000| / 2 ^ 52 := double_error _
  rcases le_or_gt factor 0 with negative | positive
  · right; right
    refine ⟨negative, scale_nonpos ?_⟩
    have below : product ≤ 0 := by
      rw [abs_of_nonpos (by linarith : factor * 1000 ≤ 0)] at error
      have high := (abs_le.mp error).2
      linarith
    have rounded := roundHalfAway_nonpos below
    omega
  · rw [abs_of_pos (by linarith : 0 < factor * 1000)] at error
    obtain ⟨low, high⟩ := abs_le.mp error
    rcases le_or_gt 1 factor with large | small
    · right; left
      refine ⟨large, (one_le_scale_iff _).mpr ((thousand_le_scaleParam_iff params).mpr ?_)⟩
      rw [← factorDef, ← productDef]
      linarith
    · left
      have half := abs_roundHalfAway_sub_le product
      set rounded := roundHalfAway product with roundedDef
      obtain ⟨halfLow, halfHigh⟩ := abs_le.mp half
      have lowRat : (-1 : Rat) ≤ rounded := by linarith
      have highRat : (rounded : Rat) ≤ 1001 := by linarith
      have lowInt : -1 ≤ rounded := by exact_mod_cast lowRat
      have highInt : rounded ≤ 1001 := by exact_mod_cast highRat
      have exact_ : (scaleParam params).toInt = rounded := by omega
      rw [exact_]
      have scaled := thousandths_error rounded
      have size : |(rounded : Rat)| ≤ 1001 := abs_le.mpr ⟨by linarith, highRat⟩
      obtain ⟨scaledLow, scaledHigh⟩ := abs_le.mp scaled
      rw [abs_le]
      constructor <;> linarith

/-! ## The result -/

/-- The first word of an action carries a step, or a scale in thousandths. -/
def firstWord (params : List (String × Value)) : ActionType → Int32
  | .scaleResolution | .restoreResolution => scaleParam params
  | .bitrateReduce | .bitrateRecover | .capFps | .restoreFps | .logOnly =>
      intParam params "step_kbps"

theorem createAction_words {rule : Rule} {actionType : ActionType}
    (known : actionTypeFromStr rule.action = some actionType) (metrics : RuleMetrics)
    (calib : CalibrationTable) (id : UInt32) :
    ∃ action, createAction rule metrics calib = .ok action ∧
      rjAction id action =
        ⟨id, actionType, firstWord rule.params actionType,
          intParam rule.params "fps_limit", 0⟩ := by
  refine ⟨_, by rw [createAction, known], ?_⟩
  cases actionType <;> rfl

/-- For every rule that loads the operation of the encoder is the described one exactly in
the listed cases. -/
theorem matchesSchema_iff_agreesWhen {rule : Rule} (valid : rule.Valid) (metrics : RuleMetrics)
    (calib : CalibrationTable) (id : UInt32) (cfg : Config) (current : UInt32) :
    ∃ actionType action, actionTypeFromStr rule.action = some actionType ∧
      createAction rule metrics calib = .ok action ∧
      (MatchesSchema actionType rule.params cfg current (rjAction id action) ↔
        AgreesWhen actionType rule.params cfg current) := by
  obtain ⟨actionType, known⟩ := Option.isSome_iff_exists.mp valid.2.2.2
  obtain ⟨action, created, packed⟩ := createAction_words known metrics calib id
  refine ⟨actionType, action, known, created, ?_⟩
  have step := bitrateStep_intParam_iff rule.params
  rw [packed]
  cases actionType with
  | bitrateReduce =>
      rw [MatchesSchema, AgreesWhen, ← step]
      refine and_congr_right fun used => ?_
      rw [← used]
      exact setsBitrate_reduced cfg current id _ _
  | bitrateRecover =>
      rw [MatchesSchema, AgreesWhen, ← step]
      refine and_congr_right fun used => ?_
      rw [← used]
      by_cases below : current < cfg.originalBitrateKbps
      · rw [if_pos below, imp_iff_right below]
        exact setsBitrate_recovered below id _ _
      · simp [below, actuate, applyAction]
  | scaleResolution =>
      have same := sameScale_scaleParam rule.params
      simp only [MatchesSchema, AgreesWhen, iff_true]
      exact ⟨_, rfl, same⟩
  | restoreResolution =>
      have reached := (one_le_scale_iff (scaleParam rule.params).toInt).trans
        (thousand_le_scaleParam_iff rule.params)
      simp only [MatchesSchema, AgreesWhen, ← reached, firstWord, actuate, applyAction,
        Option.bind_some, FrameCmd.encoderOperation, Option.some.injEq,
        EncoderOperation.setResolution.injEq, exists_eq_left']
  | capFps =>
      have word := toNat_toUInt32_intParam rule.params
      simp only [MatchesSchema, AgreesWhen, ← word, firstWord, actuate, applyAction,
        Option.bind_some, FrameCmd.encoderOperation, Option.some.injEq,
        EncoderOperation.setFpsLimit.injEq, exists_eq_left']
  | restoreFps =>
      simp [MatchesSchema, AgreesWhen, actuate, applyAction]
  | logOnly => exact Iff.rfl

def reduceRule : Rule where
  id := "frame_drop_mild"
  condition := "frame_drop_pct > 2".toList
  action := "bitrate_reduce"
  params := [("step_kbps", .posInt 500)]
  modes := ["auto-pilot"]

def capFpsRule : Rule where
  id := "cpu_load_high"
  condition := "cpu_load_pct > 90".toList
  action := "cap_fps"
  params := [("fps_limit", .posInt 30)]
  modes := ["auto-pilot", "co-pilot"]

def sixtyFps : Config := ⟨60, 6000, 1000, 6000⟩

theorem reduceRule_matches_iff :
    ∃ actionType action, actionTypeFromStr reduceRule.action = some actionType ∧
      createAction reduceRule RuleMetrics.default .empty = .ok action ∧
      (MatchesSchema actionType reduceRule.params sixtyFps 6000 (rjAction 1 action) ↔
        AgreesWhen actionType reduceRule.params sixtyFps 6000) :=
  matchesSchema_iff_agreesWhen (by decide) RuleMetrics.default .empty 1 sixtyFps 6000

/-- A limit of thirty frames becomes a limit of zero. -/
theorem capFps_limit_lost :
    capFpsRule.Valid ∧
      ∃ action, createAction capFpsRule RuleMetrics.default .empty = .ok action ∧
        actuate sixtyFps 6000 (rjAction 1 action) = some (.setFpsLimit 0) ∧
        ¬MatchesSchema .capFps capFpsRule.params sixtyFps 6000 (rjAction 1 action) := by
  refine ⟨by decide, _, rfl, rfl, ?_⟩
  rintro ⟨limit, performed, described⟩
  have zero : some (EncoderOperation.setFpsLimit 0) = some (.setFpsLimit limit) := performed
  cases zero
  exact absurd described (by decide)

end RejiStudio.Pipeline
