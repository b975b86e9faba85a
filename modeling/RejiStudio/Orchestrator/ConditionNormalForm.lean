import Mathlib.Data.List.Forall2
import RejiStudio.Lib.Delimited
import RejiStudio.Orchestrator.Condition

/-!
# Conditions in disjunctive normal form

What the text of a condition says: a disjunction of conjunctions of comparisons of
numbers, with any white space.  The evaluation of the text agrees with that while the
loads and percentages fit the signed word that it compares.
-/

namespace RejiStudio.Orchestrator

open RejiStudio.Lib

/-! ## What a condition says -/

def metricReadings : List (List Char × (RuleMetrics → Int)) :=
  [("frame_drop_pct".toList, fun metrics => metrics.frameDropPct.toNat),
    ("gpu_temp_c".toList, fun metrics => metrics.gpuTempC.toInt),
    ("cpu_temp_c".toList, fun metrics => metrics.cpuTempC.toInt),
    ("memory_usage_pct".toList, fun metrics => metrics.memoryUsagePct.toNat),
    ("cpu_load_pct".toList, fun metrics => metrics.cpuLoadPct.toNat),
    ("gpu_load_pct".toList, fun metrics => metrics.gpuLoadPct.toNat),
    ("network_rtt_ms".toList, fun metrics => metrics.networkRttMs.toNat),
    ("network_loss_pct".toList, fun metrics => metrics.networkLossPct.toNat)]

def metricNames : List (List Char) := metricReadings.map Prod.fst

def metricReading (name : List Char) (metrics : RuleMetrics) : Option Int :=
  (metricReadings.lookup name).map (· metrics)

def Comparison.Relates : Comparison → Int → Int → Prop
  | ge, value, threshold => threshold ≤ value
  | le, value, threshold => value ≤ threshold
  | gt, value, threshold => threshold < value
  | lt, value, threshold => value < threshold
  | eq, value, threshold => value = threshold

/-- The text compares a known metric with a literal, with any white space. -/
def ComparisonText (metric : List Char) (op : Comparison) (literal : Int32)
    (text : List Char) : Prop :=
  metric ∈ metricNames ∧ ∃ digits first second third fourth,
    Text.parseInt32 digits = some literal ∧
    Text.IsBlank first ∧ Text.IsBlank second ∧ Text.IsBlank third ∧ Text.IsBlank fourth ∧
    text = first ++ metric ++ second ++ op.text ++ third ++ digits ++ fourth

def WellFormed (text : List Char) : Prop :=
  ∃ metric op literal, ComparisonText metric op literal text

inductive Leaf where
  | comparison (metric : List Char) (op : Comparison) (literal : Int32)
  | illFormed (text : List Char)

/-- The texts of a leaf.  A leaf that is not a comparison has none of the characters
that the operators are made of. -/
inductive Leaf.Renders : Leaf → List Char → Prop
  | comparison {metric : List Char} {op : Comparison} {literal : Int32} {text : List Char}
      (reads : ComparisonText metric op literal text) :
      Renders (.comparison metric op literal) text
  | illFormed {text before after : List Char} (noBar : '|' ∉ text) (noAmpersand : '&' ∉ text)
      (unreadable : ¬WellFormed text) (left : Text.IsBlank before) (right : Text.IsBlank after) :
      Renders (.illFormed text) (before ++ text ++ after)

def Leaf.Holds (metrics : RuleMetrics) (calib : CalibrationTable) : Leaf → Prop
  | .comparison metric op literal =>
      ∃ value, metricReading metric metrics = some value ∧
        op.Relates value ((calib metric).getD literal).toInt
  | .illFormed _ => False

def DnfRenders (dnf : List (List Leaf)) (text : List Char) : Prop :=
  ∃ pieces, List.Forall₂ (List.Forall₂ Leaf.Renders) dnf pieces ∧
    text = orOperator.intercalate (pieces.map andOperator.intercalate)

def DnfHolds (metrics : RuleMetrics) (calib : CalibrationTable) (dnf : List (List Leaf)) : Prop :=
  ∃ conjunction ∈ dnf, ∀ leaf ∈ conjunction, leaf.Holds metrics calib

structure RuleMetrics.Fits (metrics : RuleMetrics) : Prop where
  frameDropPct : metrics.frameDropPct.toNat < 2 ^ 31
  memoryUsagePct : metrics.memoryUsagePct.toNat < 2 ^ 31
  cpuLoadPct : metrics.cpuLoadPct.toNat < 2 ^ 31
  gpuLoadPct : metrics.gpuLoadPct.toNat < 2 ^ 31

/-! ## Disjunctions and conjunctions -/

theorem orOperator_dense : Text.IsDense orOperator := by decide

theorem andOperator_dense : Text.IsDense andOperator := by decide

variable (metrics : RuleMetrics) (calib : CalibrationTable)

@[simp]
theorem evalConditionCalibrated_trim (text : List Char) :
    evalConditionCalibrated (Text.trim text) metrics calib =
      evalConditionCalibrated text metrics calib := by
  rw [evalConditionCalibrated_eq, evalConditionCalibrated_eq text, Text.trim_trim]

theorem eval_of_trim_eq {first second : List Char} (same : Text.trim first = Text.trim second) :
    evalConditionCalibrated first metrics calib =
      evalConditionCalibrated second metrics calib := by
  rw [← evalConditionCalibrated_trim, same, evalConditionCalibrated_trim]

theorem any_trimmed {pieces trimmed : List (List Char)} (related : Text.Trimmed pieces trimmed) :
    (trimmed.any fun cut => evalConditionCalibrated (Text.trim cut) metrics calib) =
      pieces.any fun piece => evalConditionCalibrated piece metrics calib := by
  induction related with
  | nil => rfl
  | cons same _ inductionHypothesis =>
      rw [List.any_cons, List.any_cons, inductionHypothesis, evalConditionCalibrated_trim,
        eval_of_trim_eq metrics calib same.1]

theorem all_trimmed {pieces trimmed : List (List Char)} (related : Text.Trimmed pieces trimmed) :
    (trimmed.all fun cut => evalConditionCalibrated (Text.trim cut) metrics calib) =
      pieces.all fun piece => evalConditionCalibrated piece metrics calib := by
  induction related with
  | nil => rfl
  | cons same _ inductionHypothesis =>
      rw [List.all_cons, List.all_cons, inductionHypothesis, evalConditionCalibrated_trim,
        eval_of_trim_eq metrics calib same.1]

theorem absent_trimmed {pieces trimmed : List (List Char)} (related : Text.Trimmed pieces trimmed)
    {c : Char} (absent : ∀ piece ∈ pieces, c ∉ piece) : ∀ cut ∈ trimmed, c ∉ cut := by
  induction related with
  | nil => exact List.forall_mem_nil _
  | cons same _ inductionHypothesis =>
      obtain ⟨here, later⟩ := List.forall_mem_cons.mp absent
      refine List.forall_mem_cons.mpr ⟨?_, inductionHypothesis later⟩
      exact fun member => here (same.2 member)

theorem eval_disjunction {pieces : List (List Char)} (nonempty : pieces ≠ [])
    (absent : ∀ piece ∈ pieces, '|' ∉ piece) :
    evalConditionCalibrated (orOperator.intercalate pieces) metrics calib =
      pieces.any fun piece => evalConditionCalibrated piece metrics calib := by
  rcases Nat.lt_or_ge pieces.length 2 with one | several
  · have single : pieces.length = 1 := by
      have positive := List.length_pos_iff.mpr nonempty
      omega
    obtain ⟨piece, rfl⟩ := List.length_eq_one_iff.mp single
    simp
  · obtain ⟨trimmed, same, related⟩ :=
      Text.trim_intercalate orOperator_nonempty orOperator_dense pieces
    have lacks := absent_trimmed related absent
    rw [related.length_eq] at several
    have remains : trimmed ≠ [] := List.length_pos_iff.mp (by omega)
    have occurs : Text.contains orOperator (orOperator.intercalate trimmed) = true :=
      Text.contains_intercalate several lacks
    have split : Text.split orOperator orOperator_nonempty (orOperator.intercalate trimmed) =
        trimmed := Text.split_intercalate remains lacks
    rw [evalConditionCalibrated_eq, same, if_pos occurs, split]
    exact any_trimmed metrics calib related

/-- A conjunction without a disjunction in it is true when all its parts are. -/
theorem eval_conjunction {pieces : List (List Char)} (nonempty : pieces ≠ [])
    (noBar : ∀ piece ∈ pieces, '|' ∉ piece) (absent : ∀ piece ∈ pieces, '&' ∉ piece) :
    evalConditionCalibrated (andOperator.intercalate pieces) metrics calib =
      pieces.all fun piece => evalConditionCalibrated piece metrics calib := by
  rcases Nat.lt_or_ge pieces.length 2 with one | several
  · have single : pieces.length = 1 := by
      have positive := List.length_pos_iff.mpr nonempty
      omega
    obtain ⟨piece, rfl⟩ := List.length_eq_one_iff.mp single
    simp
  · obtain ⟨trimmed, same, related⟩ :=
      Text.trim_intercalate andOperator_nonempty andOperator_dense pieces
    have lacks := absent_trimmed related absent
    have bare : '|' ∉ andOperator.intercalate trimmed :=
      Text.notMem_intercalate (by decide) (absent_trimmed related noBar)
    rw [related.length_eq] at several
    have remains : trimmed ≠ [] := List.length_pos_iff.mp (by omega)
    have alone : Text.contains orOperator (andOperator.intercalate trimmed) = false :=
      Text.contains_eq_false List.mem_cons_self bare
    have occurs : Text.contains andOperator (andOperator.intercalate trimmed) = true :=
      Text.contains_intercalate several lacks
    have split : Text.split andOperator andOperator_nonempty (andOperator.intercalate trimmed) =
        trimmed := Text.split_intercalate remains lacks
    rw [evalConditionCalibrated_eq, same, if_neg (by simp [alone]), if_pos occurs, split]
    exact all_trimmed metrics calib related

theorem eval_leaf {text : List Char} (noBar : '|' ∉ text) (noAmpersand : '&' ∉ text) :
    evalConditionCalibrated text metrics calib =
      match evalSingleCondition (Text.trim text) metrics calib with
      | .ok result => result
      | .error _ => false := by
  have noOr : Text.contains orOperator (Text.trim text) = false :=
    Text.contains_eq_false List.mem_cons_self fun member => noBar (Text.trim_subset text member)
  have noAnd : Text.contains andOperator (Text.trim text) = false :=
    Text.contains_eq_false List.mem_cons_self
      fun member => noAmpersand (Text.trim_subset text member)
  have whole := evalConditionCalibrated_eq text metrics calib
  rw [if_neg (by simp [noOr]), if_neg (by simp [noAnd])] at whole
  exact whole

/-! ## Comparisons -/

/-- The characters of the operators, which no metric name and no number has. -/
def operatorCharacters : List Char := ['|', '&', '<', '>', '=']

def IsPlain (text : List Char) : Prop :=
  Text.IsDense text ∧ ∀ c ∈ operatorCharacters, c ∉ text

instance (text : List Char) : Decidable (IsPlain text) :=
  haveI := List.decidableBAll (fun c => c ∉ text) operatorCharacters
  inferInstanceAs (Decidable (_ ∧ _))

theorem operatorCharacters_dense : Text.IsDense operatorCharacters := by decide

theorem isPlain_of_chars {text : List Char}
    (plain : ∀ c ∈ text, Text.isWhiteSpace c = false ∧ c ∉ operatorCharacters) : IsPlain text :=
  ⟨fun c member => (plain c member).1, fun c operator member => (plain c member).2 operator⟩

theorem plain_digit {c : Char} (digit : c.isDigit = true) :
    Text.isWhiteSpace c = false ∧ c ∉ operatorCharacters := by
  constructor
  · have range : 48 ≤ c.toNat ∧ c.toNat ≤ 57 := by
      simpa [Char.isDigit, UInt32.le_iff_toNat_le] using digit
    simp only [Text.isWhiteSpace, Bool.or_eq_false_iff, Bool.and_eq_false_iff,
      decide_eq_false_iff_not, beq_eq_false_iff_ne]
    omega
  · intro operator
    have none_ : operatorCharacters.all (fun c => !c.isDigit) = true := by decide
    have noDigit := List.all_eq_true.mp none_ c operator
    simp [digit] at noDigit

theorem digits_of_readDigits {digits : List Char} {value result : Nat}
    (read : Text.readDigits value digits = some result) : ∀ c ∈ digits, c.isDigit = true := by
  induction digits generalizing value with
  | nil => exact List.forall_mem_nil _
  | cons c rest inductionHypothesis =>
      obtain ⟨digit, later⟩ := Option.ite_none_right_eq_some.mp read
      exact List.forall_mem_cons.mpr ⟨digit, inductionHypothesis later⟩

theorem plain_of_parseNat {digits : List Char} {result : Nat}
    (read : Text.parseNat digits = some result) :
    ∀ c ∈ digits, Text.isWhiteSpace c = false ∧ c ∉ operatorCharacters := by
  cases digits with
  | nil => exact List.forall_mem_nil _
  | cons first rest =>
      intro c member
      exact plain_digit (digits_of_readDigits read c member)

theorem isPlain_of_parseInt32 {digits : List Char} {literal : Int32}
    (read : Text.parseInt32 digits = some literal) : IsPlain digits := by
  apply isPlain_of_chars
  unfold Text.parseInt32 at read
  obtain ⟨value, parsed, -⟩ := Option.bind_eq_some_iff.mp read
  split at parsed
  all_goals
    obtain ⟨_, lifted, -⟩ := Option.map_eq_some_iff.mp parsed
    obtain ⟨_, natural, -⟩ := Option.bind_eq_some_iff.mp lifted
  next => exact List.forall_mem_cons.mpr ⟨by decide, plain_of_parseNat natural⟩
  next => exact List.forall_mem_cons.mpr ⟨by decide, plain_of_parseNat natural⟩
  next => exact plain_of_parseNat natural

theorem isPlain_of_metricName {metric : List Char} (known : metric ∈ metricNames) :
    IsPlain metric := by
  have plain : metricNames.all (fun metric => decide (IsPlain metric)) = true := by
    decide +kernel
  exact of_decide_eq_true (List.all_eq_true.mp plain metric known)

theorem notMem_of_blank {blank : List Char} (white : Text.IsBlank blank) {c : Char}
    (operator : c ∈ operatorCharacters) : c ∉ blank := by
  intro member
  have solid := operatorCharacters_dense c operator
  simp [white c member] at solid

theorem absent_of_surrounded {before text after : List Char} (left : Text.IsBlank before)
    (plain : IsPlain text) (right : Text.IsBlank after) :
    ∀ c ∈ operatorCharacters, c ∉ before ++ text ++ after := by
  intro c operator
  simp [notMem_of_blank left operator, plain.2 c operator, notMem_of_blank right operator]

theorem Comparison.text_ne_nil (op : Comparison) : op.text ≠ [] := by
  cases op <;> decide

theorem Comparison.text_dense (op : Comparison) : Text.IsDense op.text := by
  cases op <;> decide

/-- Between texts without operators the comparison is found: the ones that are searched
for earlier have a character that it lacks. -/
theorem findComparison_of_absent {before after : List Char} (op : Comparison)
    (left : ∀ c ∈ operatorCharacters, c ∉ before) (right : ∀ c ∈ operatorCharacters, c ∉ after) :
    findComparison (before ++ op.text ++ after) = some (op, before, after) := by
  have missing : ∀ (c : Char) (pattern : List Char), c ∈ operatorCharacters → c ∈ pattern →
      c ∉ op.text → Text.splitFirst pattern (before ++ op.text ++ after) = none := by
    intro c pattern operator member outside
    apply Text.splitFirst_eq_none member
    simp [left c operator, right c operator, outside]
  have found : Text.splitFirst op.text (before ++ op.text ++ after) = some (before, after) := by
    cases op
    all_goals exact Text.splitFirst_append (left _ (by decide)) after
  unfold findComparison Comparison.all
  cases op with
  | ge => simp only [List.findSome?_cons, found, Option.map_some]
  | le =>
      have noGe := missing '>' Comparison.ge.text (by decide) (by decide) (by decide)
      simp only [List.findSome?_cons, noGe, found, Option.map_some, Option.map_none]
  | gt =>
      have noGe := missing '=' Comparison.ge.text (by decide) (by decide) (by decide)
      have noLe := missing '=' Comparison.le.text (by decide) (by decide) (by decide)
      simp only [List.findSome?_cons, noGe, noLe, found, Option.map_some, Option.map_none]
  | lt =>
      have noGe := missing '=' Comparison.ge.text (by decide) (by decide) (by decide)
      have noLe := missing '=' Comparison.le.text (by decide) (by decide) (by decide)
      have noGt := missing '>' Comparison.gt.text (by decide) (by decide) (by decide)
      simp only [List.findSome?_cons, noGe, noLe, noGt, found, Option.map_some, Option.map_none]
  | eq =>
      have noGe := missing '>' Comparison.ge.text (by decide) (by decide) (by decide)
      have noLe := missing '<' Comparison.le.text (by decide) (by decide) (by decide)
      have noGt := missing '>' Comparison.gt.text (by decide) (by decide) (by decide)
      have noLt := missing '<' Comparison.lt.text (by decide) (by decide) (by decide)
      simp only [List.findSome?_cons, noGe, noLe, noGt, noLt, found, Option.map_some,
        Option.map_none]

/-! ## Values -/

theorem exists_lookup_of_mem {Entry : Type} {name : List Char}
    {table : List (List Char × Entry)} (known : name ∈ table.map Prod.fst) :
    ∃ entry, table.lookup name = some entry := by
  obtain ⟨⟨key, entry⟩, member, rfl⟩ := List.mem_map.mp known
  apply Option.isSome_iff_exists.mp
  exact List.lookup_isSome_iff.mpr ⟨(key, entry), member, BEq.rfl⟩

theorem lookup_map_eq {Entry Other Value : Type} {read : Entry → Value} {readOther : Other → Value}
    {table : List (List Char × Entry)} {other : List (List Char × Other)}
    (aligned : List.Forall₂ (fun entry entry' => entry.1 = entry'.1 ∧
      read entry.2 = readOther entry'.2) table other) (name : List Char) :
    (table.lookup name).map read = (other.lookup name).map readOther := by
  induction aligned with
  | nil => rfl
  | @cons head head' rest rest' agree _ inductionHypothesis =>
      obtain ⟨key, entry⟩ := head
      obtain ⟨key', entry'⟩ := head'
      obtain ⟨rfl, same⟩ := agree
      rw [lookup_cons_eq, lookup_cons_eq]
      split
      next => exact congrArg some same
      next => exact inductionHypothesis

theorem toInt_toInt32 {word : UInt32} (fits : word.toNat < 2 ^ 31) :
    word.toInt32.toInt = word.toNat := by
  have unsigned : word.toInt32.toInt = word.toBitVec.toInt := rfl
  rw [unsigned, BitVec.toInt_eq_toNat_cond]
  have same : word.toBitVec.toNat = word.toNat := rfl
  rw [same, if_pos (by omega)]

theorem toInt_toInt32_neg {word : UInt32} (large : 2 ^ 31 ≤ word.toNat) :
    word.toInt32.toInt < 0 := by
  have unsigned : word.toInt32.toInt = word.toBitVec.toInt := rfl
  rw [unsigned, BitVec.toInt_eq_toNat_cond]
  have same : word.toBitVec.toNat = word.toNat := rfl
  have bound := word.toNat_lt
  rw [same, if_neg (by omega)]
  omega

theorem metricValueAndId_of_fits {metrics : RuleMetrics} (fits : metrics.Fits)
    (name : List Char) :
    (metricValueAndId name metrics).map (fun found => found.1.toInt) =
      metricReading name metrics := by
  have rtt : metrics.networkRttMs.toUInt32.toInt32.toInt = metrics.networkRttMs.toNat := by
    rw [toInt_toInt32, UInt16.toNat_toUInt32]
    have bound := metrics.networkRttMs.toNat_lt
    rw [UInt16.toNat_toUInt32]
    omega
  have loss : metrics.networkLossPct.toUInt32.toInt32.toInt = metrics.networkLossPct.toNat := by
    rw [toInt_toInt32, UInt8.toNat_toUInt32]
    have bound := metrics.networkLossPct.toNat_lt
    rw [UInt8.toNat_toUInt32]
    omega
  rw [metricValueAndId_eq_lookup, metricReading, Option.map_map]
  apply lookup_map_eq
  exact .cons ⟨rfl, toInt_toInt32 fits.frameDropPct⟩ <|
    .cons ⟨rfl, Int16.toInt_toInt32 _⟩ <|
    .cons ⟨rfl, Int16.toInt_toInt32 _⟩ <|
    .cons ⟨rfl, toInt_toInt32 fits.memoryUsagePct⟩ <|
    .cons ⟨rfl, toInt_toInt32 fits.cpuLoadPct⟩ <|
    .cons ⟨rfl, toInt_toInt32 fits.gpuLoadPct⟩ <|
    .cons ⟨rfl, rtt⟩ <| .cons ⟨rfl, loss⟩ .nil

theorem metricNames_eq : metricNames = metricWords.map Prod.fst := rfl

theorem mem_metricNames_of_value {name : List Char} {found : Int32 × UInt32}
    (known : metricValueAndId name metrics = some found) : name ∈ metricNames := by
  rw [metricValueAndId_eq_lookup] at known
  obtain ⟨word, found, -⟩ := Option.map_eq_some_iff.mp known
  rw [metricNames_eq]
  exact List.mem_map_of_mem (mem_of_lookup found)

theorem exists_value_of_mem {name : List Char} (known : name ∈ metricNames) :
    ∃ found, metricValueAndId name metrics = some found := by
  obtain ⟨word, found⟩ := exists_lookup_of_mem (metricNames_eq ▸ known)
  rw [metricValueAndId_eq_lookup, found]
  exact ⟨_, rfl⟩

theorem mem_metricNames_of_place (place : Nat) {name : List Char}
    (named : metricNames[place]? = some name) : name ∈ metricNames :=
  List.mem_of_getElem? named

theorem Comparison.holds_iff (op : Comparison) (value threshold : Int32) :
    op.holds value threshold = true ↔ op.Relates value.toInt threshold.toInt := by
  cases op with
  | ge => exact decide_eq_true_iff.trans Int32.le_iff_toInt_le
  | le => exact decide_eq_true_iff.trans Int32.le_iff_toInt_le
  | gt => exact decide_eq_true_iff.trans Int32.lt_iff_toInt_lt
  | lt => exact decide_eq_true_iff.trans Int32.lt_iff_toInt_lt
  | eq => exact beq_iff_eq.trans Int32.toInt_inj.symm

/-! ## Leaves -/

/-- Both sides of a comparison, with their blanks, are free of operators. -/
theorem ComparisonText.sides {metric text : List Char} {op : Comparison} {literal : Int32}
    (reads : ComparisonText metric op literal text) :
    ∃ before after, text = before ++ op.text ++ after ∧
      (∀ c ∈ operatorCharacters, c ∉ before) ∧ (∀ c ∈ operatorCharacters, c ∉ after) ∧
      Text.trim before = metric ∧ Text.parseInt32 (Text.trim after) = some literal := by
  obtain ⟨named, digits, first, second, third, fourth, number, blankFirst, blankSecond,
    blankThird, blankFourth, rfl⟩ := reads
  have plainMetric := isPlain_of_metricName named
  have plainDigits := isPlain_of_parseInt32 number
  refine ⟨first ++ metric ++ second, third ++ digits ++ fourth, ?_, ?_, ?_, ?_, ?_⟩
  · simp only [List.append_assoc]
  · exact absent_of_surrounded blankFirst plainMetric blankSecond
  · exact absent_of_surrounded blankThird plainDigits blankFourth
  · exact Text.trim_of_surrounded blankFirst plainMetric.1 blankSecond
  · rw [Text.trim_of_surrounded blankThird plainDigits.1 blankFourth]
    exact number

theorem evalSingleCondition_of_comparisonText {metric text : List Char} {op : Comparison}
    {literal : Int32} (reads : ComparisonText metric op literal text) {found : Int32 × UInt32}
    (known : metricValueAndId metric metrics = some found) :
    evalSingleCondition (Text.trim text) metrics calib =
      .ok (op.holds found.1 (effectiveThreshold metric literal calib).1) := by
  obtain ⟨before, after, rfl, left, right, name, number⟩ := reads.sides
  have cut : Text.trim (before ++ op.text ++ after) =
      Text.trimStart before ++ op.text ++ Text.trimEnd after := by
    rw [Text.trim_eq, Text.trimStart_append_append op.text_ne_nil op.text_dense,
      Text.trimEnd_append_append op.text_ne_nil op.text_dense]
  have leftTrimmed : ∀ c ∈ operatorCharacters, c ∉ Text.trimStart before :=
    fun c operator member => left c operator (Text.trimStart_subset _ member)
  have rightTrimmed : ∀ c ∈ operatorCharacters, c ∉ Text.trimEnd after :=
    fun c operator member => right c operator (Text.trimEnd_subset _ member)
  unfold evalSingleCondition
  rw [cut, findComparison_of_absent op leftTrimmed rightTrimmed]
  simp only [Text.trim_trimStart, Text.trim_trimEnd, name, number, known]

theorem findComparison_some {cond before after : List Char} {op : Comparison}
    (found : findComparison cond = some (op, before, after)) :
    cond = before ++ op.text ++ after := by
  obtain ⟨searched, -, split⟩ := List.exists_of_findSome?_eq_some found
  obtain ⟨⟨front, back⟩, occurs, same⟩ := Option.map_eq_some_iff.mp split
  cases same
  exact Text.eq_of_splitFirst occurs

/-- What is evaluated without an error is a comparison of a known metric. -/
theorem wellFormed_of_ok {text : List Char} {result : Bool}
    (evaluated : evalSingleCondition (Text.trim text) metrics calib = .ok result) :
    WellFormed text := by
  unfold evalSingleCondition at evaluated
  cases found : findComparison (Text.trim text) with
  | none => simp [found] at evaluated
  | some parts =>
      obtain ⟨op, before, after⟩ := parts
      cases number : Text.parseInt32 (Text.trim after) with
      | none => simp [found, number] at evaluated
      | some literal =>
          cases known : metricValueAndId (Text.trim before) metrics with
          | none => simp [found, number, known] at evaluated
          | some value =>
              obtain ⟨outerFirst, outerLast, blankFirst, blankLast, whole⟩ :=
                Text.exists_surround text
              obtain ⟨first, second, blankOne, blankTwo, left⟩ := Text.exists_surround before
              obtain ⟨third, fourth, blankThree, blankFour, right⟩ := Text.exists_surround after
              have inner := findComparison_some found
              refine ⟨Text.trim before, op, literal, mem_metricNames_of_value metrics known,
                Text.trim after, outerFirst ++ first, second, third, fourth ++ outerLast, number,
                ?_, blankTwo, blankThree, ?_, ?_⟩
              · exact List.forall_mem_append.mpr ⟨blankFirst, blankOne⟩
              · exact List.forall_mem_append.mpr ⟨blankFour, blankLast⟩
              · calc
                  text = outerFirst ++ (before ++ op.text ++ after) ++ outerLast := by
                    rw [← inner]
                    exact whole
                  _ = outerFirst ++ (first ++ Text.trim before ++ second ++ op.text ++
                      (third ++ Text.trim after ++ fourth)) ++ outerLast := by
                    rw [← left, ← right]
                  _ = _ := by simp only [List.append_assoc]

theorem wellFormed_of_surrounded {before text after : List Char} (left : Text.IsBlank before)
    (right : Text.IsBlank after) (formed : WellFormed (before ++ text ++ after)) :
    WellFormed text := by
  obtain ⟨metric, op, literal, reads⟩ := formed
  obtain ⟨found, known⟩ := exists_value_of_mem RuleMetrics.default reads.1
  have evaluated :=
    evalSingleCondition_of_comparisonText RuleMetrics.default .empty reads known
  rw [Text.trim_surround left right] at evaluated
  exact wellFormed_of_ok RuleMetrics.default .empty evaluated

theorem Leaf.Renders.absent {leaf : Leaf} {text : List Char} (renders : leaf.Renders text) :
    '|' ∉ text ∧ '&' ∉ text := by
  cases renders with
  | @comparison metric op literal _ reads =>
      obtain ⟨before, after, rfl, left, right, -⟩ := reads.sides
      have outside : ∀ c, c ∈ operatorCharacters → c ∉ op.text →
          c ∉ before ++ op.text ++ after := by
        intro c operator inside
        simp [left c operator, right c operator, inside]
      constructor
      · exact outside '|' (by decide) (by cases op <;> decide)
      · exact outside '&' (by decide) (by cases op <;> decide)
  | illFormed noBar noAmpersand _ left right =>
      have noBlank : ∀ {blank : List Char}, Text.IsBlank blank → '|' ∉ blank ∧ '&' ∉ blank :=
        fun white => ⟨notMem_of_blank white (by decide), notMem_of_blank white (by decide)⟩
      constructor
      · simp [noBlank left, noBlank right, noBar]
      · simp [noBlank left, noBlank right, noAmpersand]

theorem eval_comparisonText {metric text : List Char} {op : Comparison} {literal : Int32}
    (reads : ComparisonText metric op literal text) {found : Int32 × UInt32}
    (known : metricValueAndId metric metrics = some found) :
    evalConditionCalibrated text metrics calib =
      op.holds found.1 ((calib metric).getD literal) := by
  have absent := (Leaf.Renders.comparison reads).absent
  have threshold : (effectiveThreshold metric literal calib).1 =
      (calib metric).getD literal := by
    unfold effectiveThreshold
    cases calib metric <;> rfl
  rw [eval_leaf metrics calib absent.1 absent.2,
    evalSingleCondition_of_comparisonText metrics calib reads known, threshold]

theorem Leaf.Renders.eval_iff {leaf : Leaf} {text : List Char} (renders : leaf.Renders text)
    (fits : metrics.Fits) :
    evalConditionCalibrated text metrics calib = true ↔ leaf.Holds metrics calib := by
  cases renders with
  | @comparison metric op literal _ reads =>
      obtain ⟨found, known⟩ := exists_value_of_mem metrics reads.1
      have value : metricReading metric metrics = some found.1.toInt := by
        rw [← metricValueAndId_of_fits fits, known]
        rfl
      rw [eval_comparisonText metrics calib reads known]
      simp only [Leaf.Holds, value, Option.some.injEq, exists_eq_left']
      exact op.holds_iff _ _
  | illFormed noBar noAmpersand unreadable left right =>
      have absent := (Leaf.Renders.illFormed noBar noAmpersand unreadable left right).absent
      rw [eval_leaf metrics calib absent.1 absent.2]
      cases evaluated : evalSingleCondition (Text.trim _) metrics calib with
      | error message => simp [Leaf.Holds]
      | ok result =>
          have formed := wellFormed_of_ok metrics calib evaluated
          exact absurd (wellFormed_of_surrounded left right formed) unreadable

/-! ## The normal form -/

theorem absent_of_renders {leaves : List Leaf} {pieces : List (List Char)}
    (renders : List.Forall₂ Leaf.Renders leaves pieces) :
    (∀ piece ∈ pieces, '|' ∉ piece) ∧ ∀ piece ∈ pieces, '&' ∉ piece := by
  induction renders with
  | nil => exact ⟨List.forall_mem_nil _, List.forall_mem_nil _⟩
  | cons first _ inductionHypothesis =>
      exact ⟨List.forall_mem_cons.mpr ⟨first.absent.1, inductionHypothesis.1⟩,
        List.forall_mem_cons.mpr ⟨first.absent.2, inductionHypothesis.2⟩⟩

theorem all_iff_of_renders {leaves : List Leaf} {pieces : List (List Char)}
    (renders : List.Forall₂ Leaf.Renders leaves pieces) (fits : metrics.Fits) :
    (pieces.all fun piece => evalConditionCalibrated piece metrics calib) = true ↔
      ∀ leaf ∈ leaves, leaf.Holds metrics calib := by
  induction renders with
  | nil => simp
  | cons first _ inductionHypothesis =>
      rw [List.all_cons, Bool.and_eq_true, inductionHypothesis,
        first.eval_iff metrics calib fits, List.forall_mem_cons]

theorem eval_of_renders {leaves : List Leaf} {pieces : List (List Char)}
    (renders : List.Forall₂ Leaf.Renders leaves pieces) (nonempty : leaves ≠ [])
    (fits : metrics.Fits) :
    evalConditionCalibrated (andOperator.intercalate pieces) metrics calib = true ↔
      ∀ leaf ∈ leaves, leaf.Holds metrics calib := by
  obtain ⟨noBar, noAmpersand⟩ := absent_of_renders renders
  have remains : pieces ≠ [] := by
    intro empty
    subst empty
    exact nonempty (List.forall₂_nil_right_iff.mp renders)
  rw [eval_conjunction metrics calib remains noBar noAmpersand]
  exact all_iff_of_renders metrics calib renders fits

theorem any_iff_of_renders {dnf : List (List Leaf)} {pieces : List (List (List Char))}
    (renders : List.Forall₂ (List.Forall₂ Leaf.Renders) dnf pieces)
    (nonempty : ∀ conjunction ∈ dnf, conjunction ≠ []) (fits : metrics.Fits) :
    ((pieces.map andOperator.intercalate).any fun piece =>
      evalConditionCalibrated piece metrics calib) = true ↔ DnfHolds metrics calib dnf := by
  induction renders with
  | nil => simp [DnfHolds]
  | cons first _ inductionHypothesis =>
      obtain ⟨here, later⟩ := List.forall_mem_cons.mp nonempty
      rw [List.map_cons, List.any_cons, Bool.or_eq_true, inductionHypothesis later,
        eval_of_renders metrics calib first here fits]
      simp [DnfHolds]

theorem noBar_of_renders {dnf : List (List Leaf)} {pieces : List (List (List Char))}
    (renders : List.Forall₂ (List.Forall₂ Leaf.Renders) dnf pieces) :
    ∀ piece ∈ pieces.map andOperator.intercalate, '|' ∉ piece := by
  induction renders with
  | nil => exact List.forall_mem_nil _
  | cons first _ inductionHypothesis =>
      rw [List.map_cons, List.forall_mem_cons]
      exact ⟨Text.notMem_intercalate (by decide) (absent_of_renders first).1,
        inductionHypothesis⟩

/-- The evaluation of every condition in disjunctive normal form is what the condition
says. -/
def EvaluatesNormalForms : Prop :=
  ∀ (calib : CalibrationTable) (dnf : List (List Leaf)) (text : List Char), dnf ≠ [] →
    (∀ conjunction ∈ dnf, conjunction ≠ []) → DnfRenders dnf text →
      (evalConditionCalibrated text metrics calib = true ↔ DnfHolds metrics calib dnf)

theorem evaluatesNormalForms_of_fits (fits : metrics.Fits) : EvaluatesNormalForms metrics := by
  rintro calib dnf text nonempty inner ⟨pieces, renders, rfl⟩
  have remains : pieces.map andOperator.intercalate ≠ [] := by
    intro empty
    rw [List.map_eq_nil_iff.mp empty] at renders
    exact nonempty (List.forall₂_nil_right_iff.mp renders)
  rw [eval_disjunction metrics calib remains (noBar_of_renders renders)]
  exact any_iff_of_renders metrics calib renders inner fits

theorem comparisonText_bare {metric digits : List Char} (op : Comparison) {literal : Int32}
    (named : metric ∈ metricNames) (number : Text.parseInt32 digits = some literal) :
    ComparisonText metric op literal (metric ++ op.text ++ digits) := by
  have blank : Text.IsBlank [] := nofun
  exact ⟨named, digits, [], [], [], [], number, blank, blank, blank, blank, by simp⟩

theorem dnfRenders_single {leaf : Leaf} {text : List Char} (renders : leaf.Renders text) :
    DnfRenders [[leaf]] text := by
  refine ⟨[[text]], .cons (.cons renders .nil) .nil, ?_⟩
  rw [List.map_singleton, List.intercalate_singleton, List.intercalate_singleton]

/-- A load that wraps is negative, and not even at least zero. -/
theorem fits_of_evaluates (agrees : EvaluatesNormalForms metrics) {metric : List Char}
    (named : metric ∈ metricNames) {word id : UInt32}
    (reading : metricReading metric metrics = some word.toNat)
    (known : metricValueAndId metric metrics = some (word.toInt32, id)) :
    word.toNat < 2 ^ 31 := by
  by_contra large
  have reads : ComparisonText metric .ge 0 (metric ++ Comparison.ge.text ++ ['0']) :=
    comparisonText_bare .ge named (by decide)
  have holds : DnfHolds metrics .empty [[.comparison metric .ge 0]] := by
    refine ⟨_, List.mem_singleton_self _, ?_⟩
    intro leaf member
    rw [List.mem_singleton.mp member]
    exact ⟨_, reading, Int.natCast_nonneg _⟩
  have evaluated := (agrees .empty _ _ (by simp) (by simp)
    (dnfRenders_single (.comparison reads))).mpr holds
  rw [eval_comparisonText metrics .empty reads known, Comparison.holds_iff] at evaluated
  exact absurd (toInt_toInt32_neg (Nat.le_of_not_lt large)) (Int.not_lt.mpr evaluated)

/-- The conditions are evaluated as they are meant exactly when the unsigned metrics fit a
signed word. -/
theorem evaluatesNormalForms_iff_fits : EvaluatesNormalForms metrics ↔ metrics.Fits := by
  constructor
  · intro agrees
    have fitsOf : ∀ (metric : List Char) {word id : UInt32}, metric ∈ metricNames →
        metricReading metric metrics = some word.toNat →
        metricValueAndId metric metrics = some (word.toInt32, id) → word.toNat < 2 ^ 31 :=
      fun _ _ _ named => fits_of_evaluates metrics agrees named
    exact ⟨fitsOf "frame_drop_pct".toList (mem_metricNames_of_place 0 rfl) rfl rfl,
      fitsOf "memory_usage_pct".toList (mem_metricNames_of_place 3 rfl) rfl rfl,
      fitsOf "cpu_load_pct".toList (mem_metricNames_of_place 4 rfl) rfl rfl,
      fitsOf "gpu_load_pct".toList (mem_metricNames_of_place 5 rfl) rfl rfl⟩
  · exact evaluatesNormalForms_of_fits metrics

/-- A memory usage of three thousand million percent is not above eighty. -/
theorem condition_false_of_wrapped_load :
    ¬EvaluatesNormalForms { RuleMetrics.default with memoryUsagePct := 3000000000 } := by
  intro agrees
  have reads : ComparisonText "memory_usage_pct".toList .gt 80 "memory_usage_pct>80".toList :=
    comparisonText_bare .gt (mem_metricNames_of_place 3 rfl)
      (by decide : Text.parseInt32 ['8', '0'] = some 80)
  have evaluated := agrees .empty [[.comparison "memory_usage_pct".toList .gt 80]]
    "memory_usage_pct>80".toList (by simp) (by simp) (dnfRenders_single (.comparison reads))
  have holds : DnfHolds { RuleMetrics.default with memoryUsagePct := 3000000000 } .empty
      [[.comparison "memory_usage_pct".toList .gt 80]] := by
    refine ⟨_, List.mem_singleton_self _, ?_⟩
    intro leaf member
    rw [List.mem_singleton.mp member]
    exact ⟨3000000000, rfl, (by decide : (80 : Int) < 3000000000)⟩
  have wrong : evalConditionCalibrated "memory_usage_pct>80".toList
      { RuleMetrics.default with memoryUsagePct := 3000000000 } .empty = false := by
    decide +kernel
  rw [evaluated.mpr holds] at wrong
  cases wrong

end RejiStudio.Orchestrator
