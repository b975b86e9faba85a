import Mathlib.Order.Defs.Unbundled
import Mathlib.Tactic.Common

/-!
# Machines driven by lists of actions

A machine is a partial step function.  An action carries every choice that the
environment makes, and `none` says that the action is not enabled.  A run is a
list of actions, so a statement over all lists of actions is a statement over
all interleavings.
-/

namespace RejiStudio.Lib

universe u v

/-- A partial step function from a state and an action to the next state. -/
abbrev Machine (State : Type u) (Action : Type v) := State → Action → Option State

namespace Machine

variable {State : Type u} {Action : Type v}

def exec (step : Machine State Action) : State → List Action → Option State
  | state, [] => some state
  | state, action :: rest => (step state action).bind fun next => exec step next rest

@[simp]
theorem exec_nil (step : Machine State Action) (state : State) :
    exec step state [] = some state := rfl

@[simp]
theorem exec_cons (step : Machine State Action) (state : State)
    (action : Action) (rest : List Action) :
    exec step state (action :: rest) =
      (step state action).bind fun next => exec step next rest := rfl

theorem exec_append (step : Machine State Action) (state : State)
    (first second : List Action) :
    exec step state (first ++ second) =
      (exec step state first).bind fun middle => exec step middle second := by
  induction first generalizing state with
  | nil => rfl
  | cons action rest inductionHypothesis =>
      cases result : step state action with
      | none => simp [result]
      | some next => simpa [result] using inductionHypothesis next

theorem exec_cons_eq_some {step : Machine State Action} {state finish : State}
    {action : Action} {rest : List Action}
    (executed : exec step state (action :: rest) = some finish) :
    ∃ next, step state action = some next ∧ exec step next rest = some finish :=
  Option.bind_eq_some_iff.mp executed

/-- A machine whose actions are always enabled executes every list of them. -/
theorem exec_total {step : Machine State Action}
    (total : ∀ state action, ∃ next, step state action = some next) (start : State)
    (actions : List Action) : ∃ finish, exec step start actions = some finish := by
  induction actions generalizing start with
  | nil => exact ⟨start, rfl⟩
  | cons action rest inductionHypothesis =>
      obtain ⟨next, stepped⟩ := total start action
      obtain ⟨finish, continued⟩ := inductionHypothesis next
      refine ⟨finish, ?_⟩
      rw [exec_cons, stepped]
      exact continued

/-- The invariant rule: what one step preserves, a whole run preserves. -/
theorem exec_invariant {step : Machine State Action} {Inv : State → Prop}
    (preserved : ∀ state action next,
      Inv state → step state action = some next → Inv next)
    {start finish : State} {actions : List Action}
    (initially : Inv start) (executed : exec step start actions = some finish) :
    Inv finish := by
  induction actions generalizing start with
  | nil =>
      cases executed
      exact initially
  | cons action rest inductionHypothesis =>
      obtain ⟨next, stepped, continued⟩ := exec_cons_eq_some executed
      exact inductionHypothesis (preserved start action next initially stepped) continued

/-- What one step raises by at most one, a run raises by at most its length. -/
theorem exec_measure_le {step : Machine State Action} {measure : State → Nat}
    (raised : ∀ state action next,
      step state action = some next → measure next ≤ measure state + 1)
    {start finish : State} {actions : List Action}
    (executed : exec step start actions = some finish) :
    measure finish ≤ measure start + actions.length := by
  induction actions generalizing start with
  | nil =>
      cases executed
      exact Nat.le_refl _
  | cons action rest inductionHypothesis =>
      obtain ⟨next, stepped, continued⟩ := exec_cons_eq_some executed
      have first := raised start action next stepped
      have later := inductionHypothesis continued
      rw [List.length_cons]
      omega

/-- `Along step Ok start actions`: every step of the run meets `Ok`, a condition
on the state before the step and on the action. -/
def Along (step : Machine State Action) (Ok : State → Action → Prop) :
    State → List Action → Prop
  | _, [] => True
  | state, action :: rest =>
      Ok state action ∧ ∀ next, step state action = some next → Along step Ok next rest

instance decidableAlong (step : Machine State Action) (Ok : State → Action → Prop)
    [∀ state action, Decidable (Ok state action)] :
    ∀ start actions, Decidable (Along step Ok start actions)
  | _, [] => isTrue trivial
  | state, action :: rest =>
      match result : step state action with
      | none => decidable_of_iff (Ok state action) (by simp [Along, result])
      | some next =>
          have := decidableAlong step Ok next rest
          decidable_of_iff (Ok state action ∧ Along step Ok next rest)
            (by simp [Along, result])

theorem along_of_forall {step : Machine State Action} {Ok : Action → Prop} {start : State}
    {actions : List Action} (all : ∀ action ∈ actions, Ok action) :
    Along step (fun _ action => Ok action) start actions := by
  induction actions generalizing start with
  | nil => trivial
  | cons action rest inductionHypothesis =>
      refine ⟨all action List.mem_cons_self, ?_⟩
      intro next _
      apply inductionHypothesis
      intro other member
      exact all other (List.mem_cons_of_mem action member)

theorem along_and {step : Machine State Action} {Ok Other : State → Action → Prop}
    {start : State} {actions : List Action} :
    Along step (fun state action => Ok state action ∧ Other state action) start actions ↔
      Along step Ok start actions ∧ Along step Other start actions := by
  induction actions generalizing start with
  | nil => simp [Along]
  | cons action rest inductionHypothesis =>
      simp only [Along, inductionHypothesis]
      constructor
      · rintro ⟨⟨ok, other⟩, later⟩
        exact ⟨⟨ok, fun next stepped => (later next stepped).1⟩,
          ⟨other, fun next stepped => (later next stepped).2⟩⟩
      · rintro ⟨⟨ok, okLater⟩, ⟨other, otherLater⟩⟩
        exact ⟨⟨ok, other⟩, fun next stepped => ⟨okLater next stepped, otherLater next stepped⟩⟩

theorem along_append {step : Machine State Action} {Ok : State → Action → Prop}
    {start : State} {first second : List Action} :
    Along step Ok start (first ++ second) ↔
      Along step Ok start first ∧
        ∀ middle, exec step start first = some middle → Along step Ok middle second := by
  induction first generalizing start with
  | nil => simp [Along]
  | cons action rest inductionHypothesis =>
      cases result : step start action with
      | none => simp [Along, result]
      | some next => simp [Along, result, inductionHypothesis, and_assoc]

/-- A condition that keeps the invariant gives whatever it gives at one step. -/
theorem Along.of_invariant {step : Machine State Action} {Ok Sound : State → Action → Prop}
    {Inv : State → Prop}
    (preserved : ∀ state action next,
      Inv state → Ok state action → step state action = some next → Inv next)
    (sound : ∀ state action, Inv state → Ok state action → Sound state action)
    {start : State} {actions : List Action}
    (initially : Inv start) (along : Along step Ok start actions) :
    Along step Sound start actions := by
  induction actions generalizing start with
  | nil => trivial
  | cons action rest inductionHypothesis =>
      refine ⟨sound start action initially along.1, ?_⟩
      intro next stepped
      exact inductionHypothesis (preserved start action next initially along.1 stepped)
        (along.2 next stepped)

/-- A condition may be weakened along a run, with an invariant at hand. -/
theorem Along.imp {step : Machine State Action} {Ok Weaker : State → Action → Prop}
    {Inv : State → Prop}
    (preserved : ∀ state action next,
      Inv state → step state action = some next → Inv next)
    (weaken : ∀ state action, Inv state → Ok state action → Weaker state action)
    {start : State} {actions : List Action}
    (initially : Inv start) (along : Along step Ok start actions) :
    Along step Weaker start actions := by
  refine Along.of_invariant ?_ weaken initially along
  intro state action next invariant _ stepped
  exact preserved state action next invariant stepped

theorem exec_invariant_along {step : Machine State Action}
    {Ok : State → Action → Prop} {Inv : State → Prop}
    (preserved : ∀ state action next,
      Inv state → Ok state action → step state action = some next → Inv next)
    {start finish : State} {actions : List Action}
    (initially : Inv start) (along : Along step Ok start actions)
    (executed : exec step start actions = some finish) :
    Inv finish := by
  induction actions generalizing start with
  | nil =>
      cases executed
      exact initially
  | cons action rest inductionHypothesis =>
      obtain ⟨next, stepped, continued⟩ := exec_cons_eq_some executed
      exact inductionHypothesis
        (preserved start action next initially along.1 stepped) (along.2 next stepped) continued

/-- Two conditions that agree on the steps from states with the invariant agree
on a whole run, when the first of them keeps the invariant. -/
theorem along_congr {step : Machine State Action}
    {Ok Sound : State → Action → Prop} {Inv : State → Prop}
    (preserved : ∀ state action next,
      Inv state → Ok state action → step state action = some next → Inv next)
    (agree : ∀ state action next,
      Inv state → step state action = some next → (Ok state action ↔ Sound state action))
    {start finish : State} {actions : List Action}
    (initially : Inv start) (executed : exec step start actions = some finish) :
    Along step Ok start actions ↔ Along step Sound start actions := by
  induction actions generalizing start with
  | nil => exact Iff.rfl
  | cons action rest inductionHypothesis =>
      obtain ⟨next, stepped, continued⟩ := exec_cons_eq_some executed
      have same := agree start action next initially stepped
      have only : ∀ other, step start action = some other ↔ other = next := by
        intro other
        rw [stepped, Option.some.injEq, eq_comm]
      simp only [Along, only, forall_eq]
      constructor
      · rintro ⟨ok, along⟩
        have kept := preserved start action next initially ok stepped
        exact ⟨same.mp ok, (inductionHypothesis kept continued).mp along⟩
      · rintro ⟨sound, along⟩
        have kept := preserved start action next initially (same.mpr sound) stepped
        exact ⟨same.mpr sound, (inductionHypothesis kept continued).mpr along⟩

/-- The same where a third condition, which the whole run meets, keeps the invariant. -/
theorem along_congr_along {step : Machine State Action}
    {Fits Ok Sound : State → Action → Prop} {Inv : State → Prop}
    (preserved : ∀ state action next,
      Inv state → Fits state action → step state action = some next → Inv next)
    (agree : ∀ state action next, Inv state → Fits state action →
      step state action = some next → (Ok state action ↔ Sound state action))
    {start finish : State} {actions : List Action}
    (initially : Inv start) (executed : exec step start actions = some finish)
    (fits : Along step Fits start actions) :
    Along step Ok start actions ↔ Along step Sound start actions := by
  have both : Along step (fun state action => Fits state action ∧ Ok state action) start
        actions ↔
      Along step (fun state action => Fits state action ∧ Sound state action) start actions := by
    refine along_congr ?_ ?_ initially executed
    · intro state action next invariant ok stepped
      exact preserved state action next invariant ok.1 stepped
    · intro state action next invariant stepped
      exact and_congr_right fun fitting => agree state action next invariant fitting stepped
  rw [along_and, along_and] at both
  exact ⟨fun ok => (both.mp ⟨fits, ok⟩).2, fun sound => (both.mpr ⟨fits, sound⟩).2⟩

/-- When a condition says of each step whether it leads to a good state, it says of a run
whether all its states are good. -/
theorem along_after_iff {step : Machine State Action} {Ok : State → Action → Prop}
    {Inv Good : State → Prop}
    (advances : ∀ state action next, Inv state → Good state →
      step state action = some next → Inv next ∧ (Good next ↔ Ok state action))
    {start finish : State} {actions : List Action} (initially : Inv start) (good : Good start)
    (executed : exec step start actions = some finish) :
    Along step (fun state action => ∀ next, step state action = some next → Good next)
        start actions ↔
      Along step Ok start actions := by
  have preserved : ∀ state action next, Inv state ∧ Good state → Ok state action →
      step state action = some next → Inv next ∧ Good next := by
    rintro state action next ⟨invariant, holds⟩ ok stepped
    obtain ⟨kept, same⟩ := advances state action next invariant holds stepped
    exact ⟨kept, same.mpr ok⟩
  have agree : ∀ state action next, Inv state ∧ Good state → step state action = some next →
      (Ok state action ↔ ∀ next, step state action = some next → Good next) := by
    rintro state action next ⟨invariant, holds⟩ stepped
    rw [← (advances state action next invariant holds stepped).2, stepped]
    simp
  exact (along_congr preserved agree ⟨initially, good⟩ executed).symm

/-- When a good state is reached exactly from a good state by a step that meets a condition,
a run ends in a good state exactly if all its steps meet it. -/
theorem good_iff_along {step : Machine State Action} {Ok : State → Action → Prop}
    {Inv Good : State → Prop}
    (advances : ∀ state action next, Inv state → step state action = some next →
      Inv next ∧ (Good next ↔ Good state ∧ Ok state action))
    {start finish : State} {actions : List Action} (initially : Inv start)
    (executed : exec step start actions = some finish) :
    Good finish ↔ Good start ∧ Along step Ok start actions := by
  induction actions generalizing start with
  | nil =>
      cases executed
      simp [Along]
  | cons action rest inductionHypothesis =>
      obtain ⟨next, stepped, continued⟩ := exec_cons_eq_some executed
      obtain ⟨kept, same⟩ := advances start action next initially stepped
      rw [inductionHypothesis kept continued, same]
      simp [Along, stepped, and_assoc]

/-- A reflexive and transitive relation kept by every step from a state with the
invariant relates the two ends of a run. -/
theorem exec_relates {step : Machine State Action} (Inv : State → Prop)
    (Rel : State → State → Prop)
    (reflexive : ∀ state, Rel state state)
    (transitive : ∀ first second third, Rel first second → Rel second third → Rel first third)
    (preserved : ∀ state action next,
      Inv state → step state action = some next → Inv next ∧ Rel state next)
    {start finish : State} {actions : List Action}
    (initially : Inv start) (executed : exec step start actions = some finish) :
    Rel start finish := by
  induction actions generalizing start with
  | nil =>
      cases executed
      exact reflexive _
  | cons action rest inductionHypothesis =>
      obtain ⟨next, stepped, continued⟩ := exec_cons_eq_some executed
      obtain ⟨invariant, related⟩ := preserved start action next initially stepped
      exact transitive _ _ _ related (inductionHypothesis invariant continued)

/-- The ranking rule: a measure that no step raises, and that the counted steps lower,
bounds the number of counted steps in a run. -/
theorem countP_add_measure_le {step : Machine State Action} {Inv : State → Prop}
    (measure : State → Nat) (counted : Action → Bool)
    (advances : ∀ state action next, Inv state → step state action = some next →
      Inv next ∧ measure next + (if counted action then 1 else 0) ≤ measure state)
    {start finish : State} {actions : List Action} (initially : Inv start)
    (executed : exec step start actions = some finish) :
    actions.countP counted + measure finish ≤ measure start := by
  induction actions generalizing start with
  | nil =>
      cases executed
      simp
  | cons action rest inductionHypothesis =>
      obtain ⟨next, stepped, continued⟩ := exec_cons_eq_some executed
      obtain ⟨kept, lower⟩ := advances start action next initially stepped
      have later := inductionHypothesis kept continued
      rw [List.countP_cons]
      omega

/-- The simulation rule: when every step is matched by a run of another machine that
restores the relation, so is every run. -/
theorem exec_simulates {OtherState : Type u} {OtherAction : Type v} {step : Machine State Action}
    {other : Machine OtherState OtherAction} (Rel : State → OtherState → Prop)
    (simulated : ∀ state otherState action next, Rel state otherState →
      step state action = some next →
      ∃ otherActions otherNext, exec other otherState otherActions = some otherNext ∧
        Rel next otherNext)
    {start finish : State} {otherStart : OtherState} {actions : List Action}
    (initially : Rel start otherStart) (executed : exec step start actions = some finish) :
    ∃ otherActions otherFinish, exec other otherStart otherActions = some otherFinish ∧
      Rel finish otherFinish := by
  induction actions generalizing start otherStart with
  | nil =>
      cases executed
      exact ⟨[], otherStart, rfl, initially⟩
  | cons action rest inductionHypothesis =>
      obtain ⟨next, stepped, continued⟩ := exec_cons_eq_some executed
      obtain ⟨first, otherNext, firstRun, related⟩ :=
        simulated start otherStart action next initially stepped
      obtain ⟨second, otherFinish, secondRun, relatedFinish⟩ :=
        inductionHypothesis related continued
      refine ⟨first ++ second, otherFinish, ?_, relatedFinish⟩
      rw [exec_append, firstRun]
      exact secondRun

/-- The lockstep rule: when two machines take the same steps and restore a relation, or fail
together, so do their runs. -/
theorem exec_lockstep {OtherState : Type u} {step : Machine State Action}
    {other : Machine OtherState Action} (Rel : State → OtherState → Prop)
    (together : ∀ state otherState action, Rel state otherState →
      Option.Rel Rel (step state action) (other otherState action))
    {start : State} {otherStart : OtherState} (actions : List Action)
    (initially : Rel start otherStart) :
    Option.Rel Rel (exec step start actions) (exec other otherStart actions) := by
  induction actions generalizing start otherStart with
  | nil => exact .some initially
  | cons action rest inductionHypothesis =>
      have stepped := together start otherStart action initially
      rw [exec_cons, exec_cons]
      generalize step start action = next at stepped ⊢
      generalize other otherStart action = otherNext at stepped ⊢
      cases stepped with
      | none => exact .none
      | some related => exact inductionHypothesis related

end Machine

end RejiStudio.Lib
