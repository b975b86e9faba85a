import RejiStudio.Lib.Machine
import RejiStudio.Orchestrator.Rules

/-!
# Loading and reloading the rule file

A reload asks for the time of the file, reads it, tries two formats and checks
every rule.  Each of these is an exit, and only behind the last of them is
anything but the time of the attempt stored.
-/

namespace RejiStudio.Orchestrator

open RejiStudio.Lib

/-- The two parsers of the rule file, with the texts of their errors: `serde_json` and
`toml`. -/
structure RuleFormats where
  json : List Char → Except String (List Rule × UInt64)
  toml : List Char → Except String (List Rule × Option UInt64)

/-- What the file system answers while one reload runs: the time of the last change,
missing where the platform has none, and the text. -/
structure RulesFile where
  metadata : Except String (Option Nat)
  content : Except String (List Char)

inductive ReloadOutcome where
  | reloaded
  | skippedThrottled
  | skippedUnchanged
  deriving DecidableEq

def stripBom : List Char → List Char
  | '\uFEFF' :: rest => rest
  | content => content

/-- JSON first, then TOML; a text that opens a JSON object reports the JSON error. -/
def readRules (formats : RuleFormats) (content : List Char) :
    Except String (List Rule × UInt64) :=
  match formats.json content with
  | .ok file => .ok file
  | .error jsonErr =>
      if (Text.trimStart content).head? = some '\x7b' then
        .error ("Cannot parse rules as JSON: " ++ jsonErr)
      else
        match formats.toml content with
        | .ok (rules, hysteresisMs) => .ok (rules, hysteresisMs.getD 0)
        | .error tomlErr => .error ("Cannot parse rules as JSON or TOML: " ++ tomlErr)

def validateRules : List Rule → Except String Unit
  | [] => .ok ()
  | rule :: rest =>
      if rule.id = "" ∨ rule.condition = [] ∨ rule.action = "" then
        .error "Rule missing required fields (id, condition, action)"
      else if (actionTypeFromStr rule.action).isNone then
        .error ("Rule '" ++ rule.id ++ "' has unknown action: '" ++ rule.action ++ "'")
      else
        validateRules rest

def parseRulesContent (formats : RuleFormats) (content : List Char) :
    Except String ParsedRules :=
  match readRules formats (stripBom content) with
  | .error message => .error message
  | .ok (rules, hysteresisMs) =>
      match validateRules rules with
      | .error message => .error message
      | .ok () => .ok ⟨rules, hysteresisMs⟩

/-- `RuleEngine` with what it keeps about its file; the instant of the first attempt
lies before the engine, so it is an integer. -/
structure RuleFileEngine extends RuleEngine where
  lastReload : Int
  lastFileMtime : Option Nat

namespace RuleFileEngine

/-- Less than a whole second since the last attempt. -/
def throttled (engine : RuleFileEngine) (now : Nat) : Bool :=
  ((now : Int) - engine.lastReload).toNat / 1000000 < 1000

def hotReload (formats : RuleFormats) (engine : RuleFileEngine) (file : RulesFile)
    (now : Nat) : Except String ReloadOutcome × RuleFileEngine :=
  if engine.throttled now then (.ok .skippedThrottled, engine) else
  let asked := { engine with lastReload := now }
  match file.metadata with
  | .error message => (.error ("Cannot stat rules file: " ++ message), asked)
  | .ok mtime =>
      if mtime = asked.lastFileMtime then (.ok .skippedUnchanged, asked) else
      match file.content with
      | .error message => (.error ("Cannot read rules file: " ++ message), asked)
      | .ok content =>
          match parseRulesContent formats content with
          | .error message => (.error message, asked)
          | .ok parsed =>
              (.ok .reloaded, { asked with
                lastFileMtime := mtime
                rules := parsed.rules
                hysteresisMs := parsed.hysteresisMs })

/-- The engine before its first reload, created two seconds late. -/
def blank (created : Nat) : RuleFileEngine where
  rules := []
  hysteresisMs := 0
  lastTrigger := fun _ => none
  cooldownUntil := fun _ => none
  calibration := .empty
  lastReload := created - 2000000000
  lastFileMtime := none

def new (formats : RuleFormats) (file : RulesFile) (created now : Nat) :
    Except String RuleFileEngine :=
  match (blank created).hotReload formats file now with
  | (.ok _, engine) => .ok engine
  | (.error message, _) => .error message

/-! ## What passes the parser -/

theorem validateRules_ok {rules : List Rule} (passed : validateRules rules = .ok ()) :
    ∀ rule ∈ rules, rule.Valid := by
  induction rules with
  | nil => nofun
  | cons head rest inductionHypothesis =>
      rw [validateRules] at passed
      split at passed
      next => cases passed
      next filled =>
        split at passed
        next => cases passed
        next known =>
          intro rule membership
          rcases List.mem_cons.mp membership with rfl | later
          · simp only [not_or] at filled
            exact ⟨filled.1, filled.2.1, filled.2.2,
              Option.isSome_iff_ne_none.mpr (by simpa using known)⟩
          · exact inductionHypothesis passed rule later

theorem parseRulesContent_valid {formats : RuleFormats} {content : List Char}
    {parsed : ParsedRules} (accepted : parseRulesContent formats content = .ok parsed) :
    ∀ rule ∈ parsed.rules, rule.Valid := by
  unfold parseRulesContent at accepted
  split at accepted
  next => cases accepted
  next rules hysteresisMs _ =>
    split at accepted
    next => cases accepted
    next passed =>
      cases accepted
      exact validateRules_ok passed

theorem createAction_of_valid {rule : Rule} (valid : rule.Valid) (metrics : RuleMetrics)
    (calib : CalibrationTable) : ∃ action, createAction rule metrics calib = .ok action := by
  obtain ⟨_, _, _, known⟩ := valid
  obtain ⟨actionType, found⟩ := Option.isSome_iff_exists.mp known
  exact ⟨_, by rw [createAction, found]⟩

/-! ## What a reload does -/

/-- Either new rules are stored with the time of their file, or nothing but the time
of the attempt. -/
theorem hotReload_cases (formats : RuleFormats) (engine : RuleFileEngine) (file : RulesFile)
    (now : Nat) :
    ((engine.hotReload formats file now).1 ≠ .ok .reloaded ∧
        (engine.hotReload formats file now).2 =
          { engine with lastReload := (engine.hotReload formats file now).2.lastReload }) ∨
      ∃ content parsed mtime, file.content = .ok content ∧
        parseRulesContent formats content = .ok parsed ∧
        engine.hotReload formats file now =
          (.ok .reloaded, { engine with
            lastReload := now
            lastFileMtime := mtime
            rules := parsed.rules
            hysteresisMs := parsed.hysteresisMs }) := by
  unfold hotReload
  split
  next => exact .inl ⟨nofun, rfl⟩
  next =>
    dsimp only
    split
    next => exact .inl ⟨nofun, rfl⟩
    next mtime _ =>
      split
      next => exact .inl ⟨nofun, rfl⟩
      next =>
        split
        next => exact .inl ⟨nofun, rfl⟩
        next content read =>
          split
          next => exact .inl ⟨nofun, rfl⟩
          next parsed accepted =>
            exact .inr ⟨content, parsed, mtime, read, accepted, rfl⟩

/-- Past the throttle the answer depends on the recorded time and the file alone. -/
theorem hotReload_answer_congr {formats : RuleFormats} {engine other : RuleFileEngine}
    {file : RulesFile} {now later : Nat} (unthrottled : engine.throttled now = false)
    (otherUnthrottled : other.throttled later = false)
    (same : other.lastFileMtime = engine.lastFileMtime) :
    (other.hotReload formats file later).1 = (engine.hotReload formats file now).1 := by
  simp only [hotReload, unthrottled, otherUnthrottled, same, Bool.false_eq_true, if_false]
  cases file.metadata with
  | error message => rfl
  | ok mtime =>
      dsimp only
      split
      next => rfl
      next =>
        cases file.content with
        | error message => rfl
        | ok content =>
            dsimp only
            split <;> rfl

theorem unthrottled_of_error {formats : RuleFormats} {engine : RuleFileEngine}
    {file : RulesFile} {now : Nat} {message : String}
    (failed : (engine.hotReload formats file now).1 = .error message) :
    engine.throttled now = false := by
  by_contra throttled
  rw [hotReload, if_pos (by simpa using throttled)] at failed
  cases failed

/-! ## Runs -/

inductive EngineCall where
  | hotReload (file : RulesFile) (now : Nat)
  | evaluate (metrics : RuleMetrics) (mode : String) (now : Nat)
  | applyCooldown (ruleId : String) (until_ : Nat)
  | setCalibratedThreshold (metric : List Char) (threshold : Int32)

def step (formats : RuleFormats) : Machine RuleFileEngine EngineCall
  | engine, .hotReload file now => some (engine.hotReload formats file now).2
  | engine, .evaluate metrics mode now =>
      some { engine with toRuleEngine := (engine.toRuleEngine.evaluate metrics mode now).1 }
  | engine, .applyCooldown ruleId until_ =>
      some { engine with toRuleEngine := engine.toRuleEngine.applyCooldown ruleId until_ }
  | engine, .setCalibratedThreshold metric threshold =>
      some { engine with
        toRuleEngine := engine.toRuleEngine.setCalibratedThreshold metric threshold }

def RulesValid (engine : RuleFileEngine) : Prop := ∀ rule ∈ engine.rules, rule.Valid

theorem hotReload_rulesValid {engine : RuleFileEngine} (valid : engine.RulesValid)
    (formats : RuleFormats) (file : RulesFile) (now : Nat) :
    (engine.hotReload formats file now).2.RulesValid := by
  rcases engine.hotReload_cases formats file now with
    ⟨_, kept⟩ | ⟨content, parsed, mtime, _, accepted, replaced⟩
  · rw [kept]
    exact valid
  · rw [replaced]
    exact parseRulesContent_valid accepted

theorem new_rulesValid {formats : RuleFormats} {file : RulesFile} {created now : Nat}
    {engine : RuleFileEngine} (built : new formats file created now = .ok engine) :
    engine.RulesValid := by
  have unloaded : (blank created).RulesValid := nofun
  have valid := hotReload_rulesValid unloaded formats file now
  unfold new at built
  split at built
  next outcome loaded result =>
    rw [result] at valid
    cases built
    exact valid
  next => cases built

theorem step_rulesValid {formats : RuleFormats} {engine next : RuleFileEngine}
    {call : EngineCall} (valid : engine.RulesValid)
    (stepped : step formats engine call = some next) : next.RulesValid := by
  cases call with
  | hotReload file now =>
      cases stepped
      exact hotReload_rulesValid valid formats file now
  | evaluate metrics mode now =>
      cases stepped
      obtain ⟨_, _, _, same⟩ := engine.toRuleEngine.evaluate_frame metrics mode now
      rw [RulesValid, same]
      exact valid
  | applyCooldown ruleId until_ =>
      cases stepped
      exact valid
  | setCalibratedThreshold metric threshold =>
      cases stepped
      exact valid

def EngineCall.Sees (file : RulesFile) : EngineCall → Prop
  | .hotReload seen _ => seen = file
  | _ => True

def Fails (formats : RuleFormats) (file : RulesFile) (message : String)
    (engine : RuleFileEngine) : Prop :=
  ∀ now, engine.throttled now = false →
    (engine.hotReload formats file now).1 = .error message

theorem fails_of_error {formats : RuleFormats} {file : RulesFile} {message : String}
    {engine other : RuleFileEngine} {now : Nat}
    (failed : (engine.hotReload formats file now).1 = .error message)
    (same : other.lastFileMtime = engine.lastFileMtime) :
    other.Fails formats file message := by
  intro later unthrottled
  rw [hotReload_answer_congr (unthrottled_of_error failed) unthrottled same]
  exact failed

/-- A file that fails is never loaded, so the recorded time stays. -/
theorem hotReload_fails {formats : RuleFormats} {file : RulesFile} {message : String}
    {engine : RuleFileEngine} (fails : engine.Fails formats file message) (now : Nat) :
    (engine.hotReload formats file now).2.Fails formats file message := by
  by_cases throttled : engine.throttled now = true
  · rw [hotReload, if_pos throttled]
    exact fails
  · have failed := fails now (by simpa using throttled)
    refine fails_of_error failed ?_
    rcases engine.hotReload_cases formats file now with ⟨_, kept⟩ | ⟨_, _, _, _, _, replaced⟩
    · rw [kept]
    · rw [replaced] at failed
      cases failed

theorem step_fails {formats : RuleFormats} {file : RulesFile} {message : String}
    {engine next : RuleFileEngine} {call : EngineCall} (sees : call.Sees file)
    (fails : engine.Fails formats file message)
    (stepped : step formats engine call = some next) : next.Fails formats file message := by
  have carried : ∀ other : RuleFileEngine, other.lastFileMtime = engine.lastFileMtime →
      other.lastReload = engine.lastReload → other.Fails formats file message := by
    intro other sameMtime sameReload now unthrottled
    have before : engine.throttled now = false := by
      rw [throttled, ← sameReload]
      exact unthrottled
    rw [hotReload_answer_congr before unthrottled sameMtime]
    exact fails now before
  cases call with
  | hotReload seen now =>
      cases stepped
      rw [show seen = file from sees]
      exact hotReload_fails fails now
  | evaluate metrics mode now =>
      cases stepped
      exact carried _ rfl rfl
  | applyCooldown ruleId until_ =>
      cases stepped
      exact carried _ rfl rfl
  | setCalibratedThreshold metric threshold =>
      cases stepped
      exact carried _ rfl rfl

/-- An engine built from any file and used in any way: its rules are valid and have
actions; a reload that fails or skips leaves everything but the time of the attempt;
and a file that failed once fails the same way at every later attempt, as long as it
stays as it is. -/
theorem reload_is_atomic (formats : RuleFormats) (initial : RulesFile) (created started : Nat)
    (calls : List EngineCall) (built engine : RuleFileEngine)
    (new_ : new formats initial created started = .ok built)
    (executed : Machine.exec (step formats) built calls = some engine) :
    (∀ rule ∈ engine.rules, rule.Valid ∧
      ∀ metrics calib, ∃ action, createAction rule metrics calib = .ok action) ∧
    (∀ file now, (engine.hotReload formats file now).1 ≠ .ok .reloaded →
      (engine.hotReload formats file now).2 =
        { engine with lastReload := (engine.hotReload formats file now).2.lastReload }) ∧
    ∀ file now message, (engine.hotReload formats file now).1 = .error message →
      ∀ later last, (∀ call ∈ later, call.Sees file) →
        Machine.exec (step formats) (engine.hotReload formats file now).2 later = some last →
        ∀ again, last.throttled again = false →
          (last.hotReload formats file again).1 = .error message := by
  have valid : engine.RulesValid := Machine.exec_invariant
    (fun _ _ _ valid stepped => step_rulesValid valid stepped) (new_rulesValid new_) executed
  refine ⟨?_, ?_, ?_⟩
  · intro rule membership
    exact ⟨valid rule membership, createAction_of_valid (valid rule membership)⟩
  · intro file now other
    rcases engine.hotReload_cases formats file now with ⟨_, kept⟩ | ⟨_, _, _, _, _, replaced⟩
    · exact kept
    · rw [replaced] at other
      exact absurd rfl other
  · intro file now message failed later last sees continued
    have fails := hotReload_fails (fails_of_error failed rfl) now
    have along : Machine.Along (step formats) (fun _ call => call.Sees file)
        (engine.hotReload formats file now).2 later :=
      Machine.along_of_forall sees
    exact Machine.exec_invariant_along
      (fun _ _ _ fails sees stepped => step_fails sees fails stepped) fails along continued

def templateText : List Char :=
  ['\x7b', '\x22'] ++ "rules\":[\x7b\"id\":\"frame_drop_high\",".toList ++
    "\"condition\":\"frame_drop_pct > 10\",\"action\":\"bitrate_reduce\",".toList ++
    "\"params\":\x7b\"step_kbps\":500\x7d,".toList ++
    "\"modes\":[\"auto-pilot\",\"co-pilot\",\"assist\"]\x7d],".toList ++
    "\"hysteresis_ms\":10000\x7d".toList

/-- The parsers on that file and on one that ends behind its first brace. -/
def templateFormats : RuleFormats where
  json := fun content =>
    if content = ['\x7b'] then .error "EOF while parsing an object at line 1 column 1"
    else .ok (templateRules.rules, templateRules.hysteresisMs)
  toml := fun _ => .error "invalid key"

def brokenFile : RulesFile := ⟨.ok (some 2), .ok ['\x7b']⟩

theorem reload_is_atomic_broken :
    ∃ built engine,
      new templateFormats ⟨.ok (some 1), .ok templateText⟩ 0 0 = .ok built ∧
      Machine.exec (step templateFormats) built
        [.setCalibratedThreshold "frame_drop_pct".toList 8,
          .hotReload ⟨.ok (some 1), .ok templateText⟩ 2000000000] = some engine ∧
      engine.rules = templateRules.rules ∧
      (engine.hotReload templateFormats brokenFile 4000000000).1 =
        .error ("Cannot parse rules as JSON: " ++
          "EOF while parsing an object at line 1 column 1") ∧
      ∃ last, Machine.exec (step templateFormats)
          (engine.hotReload templateFormats brokenFile 4000000000).2
          [.applyCooldown "frame_drop_high" 9000000000,
            .hotReload brokenFile 4500000000] = some last ∧
        (last.hotReload templateFormats brokenFile 5000000000).1 =
          .error ("Cannot parse rules as JSON: " ++
            "EOF while parsing an object at line 1 column 1") := by
  refine ⟨_, _, rfl, rfl, rfl, rfl, _, rfl, ?_⟩
  refine (reload_is_atomic templateFormats ⟨.ok (some 1), .ok templateText⟩ 0 0
    [.setCalibratedThreshold "frame_drop_pct".toList 8,
      .hotReload ⟨.ok (some 1), .ok templateText⟩ 2000000000] _ _ rfl rfl).2.2
    brokenFile 4000000000 _ rfl
    [.applyCooldown "frame_drop_high" 9000000000, .hotReload brokenFile 4500000000] _ ?_ rfl
    5000000000 (by decide)
  simp [EngineCall.Sees]

end RuleFileEngine

end RejiStudio.Orchestrator
