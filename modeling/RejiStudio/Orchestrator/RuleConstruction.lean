import RejiStudio.Orchestrator.RuleReload
import RejiStudio.Ws.CStrBounded

/-!
# What a constructed rule engine holds

The engine is built blank and then reloads.  The throttle cannot stop that reload; the
recorded time of the file can, for it starts as the missing time.
-/

namespace RejiStudio.Orchestrator

open RejiStudio.Lib

def maxFfiPathLen : Nat := 32 * 1024

/-- `rj_validate_rules`: the engine is built from the file the path names and dropped. -/
def rjValidateRules (formats : RuleFormats) (files : String → RulesFile) (created now : Nat)
    (path : Option (Nat → UInt8)) : Int32 :=
  if path.isNone then 0 else
  match Ws.cstrBounded path maxFfiPathLen with
  | none => 0
  | some name =>
      match RuleFileEngine.new formats (files name) created now with
      | .ok _ => 1
      | .error _ => 0

namespace RulesFile

def ParsesTo (formats : RuleFormats) (file : RulesFile) (parsed : ParsedRules) : Prop :=
  ∃ content, file.content = .ok content ∧ parseRulesContent formats content = .ok parsed

theorem ParsesTo.unique {formats : RuleFormats} {file : RulesFile} {parsed other : ParsedRules}
    (parses : file.ParsesTo formats parsed) (again : file.ParsesTo formats other) :
    parsed = other := by
  obtain ⟨content, read, accepted⟩ := parses
  obtain ⟨content', read', accepted'⟩ := again
  cases read.symm.trans read'
  exact Except.ok.inj (accepted.symm.trans accepted')

end RulesFile

namespace RuleFileEngine

/-- What a construction promises: an engine comes with the rules of the file. -/
def LoadsFrom (formats : RuleFormats) (file : RulesFile) (created now : Nat) : Prop :=
  ∀ engine, new formats file created now = .ok engine →
    ∃ parsed, file.ParsesTo formats parsed ∧
      engine.rules = parsed.rules ∧ engine.hysteresisMs = parsed.hysteresisMs

/-- What the validation promises: only a file that parses is found valid. -/
def ValidatesOnly (formats : RuleFormats) (files : String → RulesFile) (created now : Nat)
    (path : Option (Nat → UInt8)) : Prop :=
  rjValidateRules formats files created now path = 1 →
    ∃ name parsed, Ws.cstrBounded path maxFfiPathLen = some name ∧
      (files name).ParsesTo formats parsed

/-! ## The construction by the answers of the file system -/

theorem blank_unthrottled (created elapsed : Nat) :
    (blank created).throttled (created + elapsed) = false := by
  rw [throttled, decide_eq_false_iff_not]
  have late : (blank created).lastReload = (created : Int) - 2000000000 := rfl
  rw [late]
  omega

theorem new_of_error {formats : RuleFormats} {file : RulesFile} {message : String}
    (created elapsed : Nat) (failed : file.metadata = .error message) :
    new formats file created (created + elapsed) =
      .error ("Cannot stat rules file: " ++ message) := by
  simp only [new, hotReload, blank_unthrottled, failed, Bool.false_eq_true, if_false]

/-- Without a time of change the file passes for unchanged, and nothing is read. -/
theorem new_of_untimed {formats : RuleFormats} {file : RulesFile} (created elapsed : Nat)
    (untimed : file.metadata = .ok none) :
    new formats file created (created + elapsed) =
      .ok { blank created with lastReload := ↑(created + elapsed) } := by
  simp only [new, hotReload, blank_unthrottled, untimed, Bool.false_eq_true, if_false]
  rw [if_pos (show none = (blank created).lastFileMtime from rfl)]

theorem new_of_timed {formats : RuleFormats} {file : RulesFile} {mtime : Nat}
    (created elapsed : Nat) (timed : file.metadata = .ok (some mtime)) :
    LoadsFrom formats file created (created + elapsed) ∧
      ∀ parsed, file.ParsesTo formats parsed →
        ∃ engine, new formats file created (created + elapsed) = .ok engine := by
  have changed : ¬some mtime = (blank created).lastFileMtime := nofun
  simp only [LoadsFrom, new, hotReload, blank_unthrottled, timed, Bool.false_eq_true, if_false,
    if_neg changed]
  constructor
  · intro engine built
    split at built
    next outcome loaded result =>
      split at result
      next => cases result
      next content read =>
        split at result
        next => cases result
        next parsed accepted =>
          cases result
          cases built
          exact ⟨parsed, ⟨content, read, accepted⟩, rfl, rfl⟩
    next => cases built
  · rintro parsed ⟨content, read, accepted⟩
    simp only [read, accepted]
    exact ⟨_, rfl⟩

/-- The one gap: no time of change, and a text that does not parse to the blank engine. -/
theorem loadsFrom_iff (formats : RuleFormats) (file : RulesFile) (created elapsed : Nat) :
    LoadsFrom formats file created (created + elapsed) ↔
      (file.metadata = .ok none → file.ParsesTo formats ⟨[], 0⟩) := by
  cases answered : file.metadata with
  | error message =>
      refine iff_of_true ?_ nofun
      intro engine built
      rw [new_of_error created elapsed answered] at built
      cases built
  | ok mtime =>
      cases mtime with
      | some mtime => exact iff_of_true (new_of_timed created elapsed answered).1 nofun
      | none =>
          rw [forall_prop_of_true rfl]
          constructor
          · intro loads
            obtain ⟨⟨rules, hysteresisMs⟩, parses, sameRules, sameHysteresis⟩ :=
              loads _ (new_of_untimed created elapsed answered)
            cases sameRules
            cases sameHysteresis
            exact parses
          · intro parses engine built
            rw [new_of_untimed created elapsed answered] at built
            cases built
            exact ⟨_, parses, rfl, rfl⟩

/-- The result is 1 exactly where the path names a file that an engine is built from. -/
theorem rjValidateRules_eq_one_iff {formats : RuleFormats} {files : String → RulesFile}
    {created now : Nat} {path : Option (Nat → UInt8)} :
    rjValidateRules formats files created now path = 1 ↔
      ∃ name engine, Ws.cstrBounded path maxFfiPathLen = some name ∧
        new formats (files name) created now = .ok engine := by
  unfold rjValidateRules
  cases path with
  | none => simp [Ws.cstrBounded]
  | some bytes =>
      rw [Option.isNone_some, if_neg Bool.false_ne_true]
      cases Ws.cstrBounded (some bytes) maxFfiPathLen with
      | none => simp
      | some name => cases built : new formats (files name) created now <;> simp [built]

theorem validatesOnly_iff (formats : RuleFormats) (files : String → RulesFile)
    (created elapsed : Nat) (path : Option (Nat → UInt8)) :
    ValidatesOnly formats files created (created + elapsed) path ↔
      ∀ name, Ws.cstrBounded path maxFfiPathLen = some name →
        (files name).metadata = .ok none → ∃ parsed, (files name).ParsesTo formats parsed := by
  constructor
  · intro honest name named untimed
    obtain ⟨name', parsed, named', parses⟩ := honest (rjValidateRules_eq_one_iff.mpr
      ⟨name, _, named, new_of_untimed created elapsed untimed⟩)
    cases named.symm.trans named'
    exact ⟨parsed, parses⟩
  · intro timed valid
    obtain ⟨name, engine, named, built⟩ := rjValidateRules_eq_one_iff.mp valid
    by_cases untimed : (files name).metadata = .ok none
    · obtain ⟨parsed, parses⟩ := timed name named untimed
      exact ⟨name, parsed, named, parses⟩
    · obtain ⟨parsed, parses, -⟩ := (loadsFrom_iff formats (files name) created elapsed).mpr
        (absurd · untimed) engine built
      exact ⟨name, parsed, named, parses⟩

/-- A construction loads its file unless the file has no time of change and its text is
not that of an engine without rules; the validation is wrong exactly about the files
without a time whose text does not parse. -/
theorem construction_loads_iff (formats : RuleFormats) (created elapsed : Nat) :
    (∀ file, LoadsFrom formats file created (created + elapsed) ↔
      (file.metadata = .ok none → file.ParsesTo formats ⟨[], 0⟩)) ∧
    ∀ (files : String → RulesFile) (path : Option (Nat → UInt8)),
      ValidatesOnly formats files created (created + elapsed) path ↔
        ∀ name, Ws.cstrBounded path maxFfiPathLen = some name →
          (files name).metadata = .ok none →
            ∃ parsed, (files name).ParsesTo formats parsed :=
  ⟨fun file => loadsFrom_iff formats file created elapsed,
    fun files path => validatesOnly_iff formats files created elapsed path⟩

/-- A file that ends behind its first brace, on a platform without times of change. -/
def untimedFile : RulesFile := ⟨.ok none, .ok ['\x7b']⟩

theorem untimedFile_unparsed (parsed : ParsedRules) :
    ¬untimedFile.ParsesTo templateFormats parsed := by
  rintro ⟨content, read, accepted⟩
  cases read
  cases accepted

theorem untimed_file_accepted :
    ¬(LoadsFrom templateFormats untimedFile 0 0 ∧
      ∀ path, ValidatesOnly templateFormats (fun _ => untimedFile) 0 0 path) ∧
    (∃ engine, new templateFormats untimedFile 0 0 = .ok engine ∧
      engine.rules = [] ∧ engine.hysteresisMs = 0) ∧
    rjValidateRules templateFormats (fun _ => untimedFile) 0 0
      (some (Ws.terminate "rules.json".toUTF8.toList)) = 1 := by
  have built : new templateFormats untimedFile 0 0 = .ok { blank 0 with lastReload := 0 } := rfl
  refine ⟨?_, ⟨_, built, rfl, rfl⟩, by decide +kernel⟩
  rintro ⟨loads, -⟩
  obtain ⟨parsed, parses, -⟩ := loads _ built
  exact untimedFile_unparsed parsed parses

end RuleFileEngine

end RejiStudio.Orchestrator
