import RejiStudio.Lib.StableSort
import RejiStudio.Orchestrator.Rules

/-!
# Conflicting actions of one evaluation

A recovery or a restoration gives way to its opposite, and what is left is sorted by
priority without disturbing the order of actions of one type.
-/

namespace RejiStudio.Orchestrator

open RejiStudio.Lib

def Action.GivesWay (actions : List Action) (action : Action) : Prop :=
  ∃ other ∈ actions, action.actionType.opposite = some other.actionType

instance (actions : List Action) (action : Action) : Decidable (action.GivesWay actions) :=
  inferInstanceAs (Decidable (∃ other ∈ actions, _))

def prevailing (actions : List Action) : List Action :=
  actions.filter fun action => ¬action.GivesWay actions

theorem mem_prevailing {actions : List Action} {action : Action} :
    action ∈ prevailing actions ↔ action ∈ actions ∧ ¬action.GivesWay actions := by
  simp [prevailing]

theorem resolveConflicts_eq (actions : List Action) :
    resolveConflicts actions =
      sortByKey (fun action => action.actionType.priority) (prevailing actions) := by
  unfold resolveConflicts prevailing sortByKey
  congr 1
  apply List.filter_congr
  intro action _
  rw [Bool.eq_iff_iff, decide_eq_true_iff, Action.GivesWay]
  cases action.actionType.opposite with
  | none => simp
  | some opposite => simp [@eq_comm _ opposite]

theorem mem_resolveConflicts {actions : List Action} {action : Action} :
    action ∈ resolveConflicts actions ↔ action ∈ actions ∧ ¬action.GivesWay actions := by
  rw [resolveConflicts_eq, (sortByKey_perm _ _).mem_iff, mem_prevailing]

theorem not_givesWay_resolveConflicts {actions : List Action} {action : Action}
    (member : action ∈ resolveConflicts actions) :
    ¬action.GivesWay (resolveConflicts actions) := by
  rintro ⟨other, otherMember, opposite⟩
  have given := (mem_resolveConflicts.mp otherMember).1
  exact (mem_resolveConflicts.mp member).2 ⟨other, given, opposite⟩

theorem prevailing_resolveConflicts (actions : List Action) :
    prevailing (resolveConflicts actions) = resolveConflicts actions := by
  apply List.filter_eq_self.mpr
  intro action member
  exact decide_eq_true (not_givesWay_resolveConflicts member)

/-- The result is a permutation of the actions whose opposite is not among the given
ones, in the order of priority; actions of one type keep their order, no conflicting pair is
left, and a second pass changes nothing. -/
theorem resolveConflicts_spec (actions : List Action) :
    (resolveConflicts actions).Perm
        (actions.filter fun action => ¬action.GivesWay actions) ∧
      (resolveConflicts actions).Pairwise
        (fun first second => first.actionType.priority ≤ second.actionType.priority) ∧
      (∀ actionType,
        (resolveConflicts actions).filter (·.actionType = actionType) =
          (actions.filter fun action => ¬action.GivesWay actions).filter
            (·.actionType = actionType)) ∧
      (∀ first ∈ resolveConflicts actions, ∀ second ∈ resolveConflicts actions,
        first.actionType.opposite ≠ some second.actionType) ∧
      resolveConflicts (resolveConflicts actions) = resolveConflicts actions := by
  have same := resolveConflicts_eq actions
  have sorted := pairwise_sortByKey (fun action : Action => action.actionType.priority)
    (prevailing actions)
  rw [← same] at sorted
  refine ⟨?_, sorted, ?_, ?_, ?_⟩
  · rw [same]
    exact sortByKey_perm _ _
  · intro actionType
    rw [same]
    apply filter_sortByKey
    · intro action ofType
      exact congrArg ActionType.priority (of_decide_eq_true ofType)
  · intro first firstMember second secondMember opposite
    exact not_givesWay_resolveConflicts firstMember ⟨second, secondMember, opposite⟩
  · rw [resolveConflicts_eq (resolveConflicts actions), prevailing_resolveConflicts]
    exact sortByKey_of_pairwise sorted

end RejiStudio.Orchestrator
