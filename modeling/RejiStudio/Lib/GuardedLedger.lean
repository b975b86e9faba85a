import RejiStudio.Lib.Ledger
import RejiStudio.Lib.Machine

/-!
# Ledgers behind a flag

A component makes its parts in order and raises a flag once it has all of them.  It gives
back what it holds only behind the flag, and while the flag is up it may renew cells that
are no parts.  The object may be dropped, and its cells with it.  Nothing is given back twice
then, and everything is given back exactly if no attempt stopped halfway.
-/

namespace RejiStudio.Lib

universe u v

open Ledger

/-- A component and the ledger of what it made.  Nothing depends on the owners. -/
structure Guarded (Cell : Type u) where
  ready : Bool
  ledger : Ledger Cell Unit

/-- What happens to a component: an attempt at its parts that gets so far, the renewal of a
cell, the release of everything and the end of the object. -/
inductive GuardedAction (Cell : Type u) where
  | attempt (count : Nat)
  | renew (cell : Cell) (made : Bool)
  | pass
  | close
  | drop

namespace Guarded

variable {Cell : Type u}

structure Layout (Cell : Type u) where
  first : Cell
  rest : List Cell
  cells : List Cell
  distinct : (first :: rest).Nodup
  covered : ∀ cell ∈ first :: rest, cell ∈ cells

namespace Layout

variable {layout : Layout Cell}

def parts (layout : Layout Cell) : List Cell := layout.first :: layout.rest

def Root (layout : Layout Cell) (cell : Cell) : Prop := cell ∈ layout.cells

theorem root_first : layout.Root layout.first := layout.covered _ List.mem_cons_self

theorem root_of_take {count : Nat} {cell : Cell} (part : cell ∈ layout.parts.take count) :
    layout.Root cell :=
  layout.covered cell (List.mem_of_mem_take part)

theorem distinct_take (count : Nat) : (layout.parts.take count).Nodup :=
  layout.distinct.sublist (List.take_sublist _ _)

theorem first_mem_take {count : Nat} (made : count ≠ 0) :
    layout.first ∈ layout.parts.take count := by
  cases count with
  | zero => exact absurd rfl made
  | succ count => exact List.mem_cons_self

end Layout

def start : Guarded Cell := ⟨false, Ledger.empty⟩

def sameOwner : Cell → Unit := fun _ => ()

section Actions

variable [DecidableEq Cell]

/-- Make the first `count` parts; with all of them the component is ready. -/
def attempt (layout : Layout Cell) (state : Guarded Cell) (count : Nat) : Guarded Cell :=
  if state.ready then state
  else
    { ready := decide (layout.parts.length ≤ count)
      ledger := state.ledger.createAll sameOwner (layout.parts.take count) }

def renew (state : Guarded Cell) (cell : Cell) (made : Bool) : Guarded Cell :=
  if state.ready then
    let released := state.ledger.release sameOwner cell
    { state with ledger := if made then released.create sameOwner cell else released }
  else state

def pass (state : Guarded Cell) : Guarded Cell :=
  if state.ready then { state with ledger := state.ledger.pass } else state

def close (layout : Layout Cell) (state : Guarded Cell) : Guarded Cell :=
  if state.ready then
    { ready := false, ledger := state.ledger.releaseAll sameOwner layout.cells }
  else state

def drop (layout : Layout Cell) (state : Guarded Cell) : Guarded Cell :=
  { ready := false, ledger := (state.close layout).ledger.copyAll none layout.cells }

def step (layout : Layout Cell) : Machine (Guarded Cell) (GuardedAction Cell)
  | state, .attempt count => some (state.attempt layout count)
  | state, .renew cell made =>
      if cell ∈ layout.cells ∧ cell ∉ layout.parts then some (state.renew cell made) else none
  | state, .pass => some state.pass
  | state, .close => some (state.close layout)
  | state, .drop => some (state.drop layout)

def Whole (layout : Layout Cell) (state : Guarded Cell) : GuardedAction Cell → Prop
  | .attempt count => state.ready = true ∨ count = 0 ∨ layout.parts.length ≤ count
  | _ => True

instance decidableWhole (layout : Layout Cell) (state : Guarded Cell) :
    ∀ action, Decidable (state.Whole layout action)
  | .attempt count =>
      inferInstanceAs (Decidable (state.ready = true ∨ count = 0 ∨ layout.parts.length ≤ count))
  | .renew _ _ => isTrue trivial
  | .pass => isTrue trivial
  | .close => isTrue trivial
  | .drop => isTrue trivial

end Actions

/-! ## Thrifty ledgers -/

/-- No resource is released twice, and what a root holds is not released at all. -/
structure Thrifty {Owner : Type v} (root : Cell → Prop) (ledger : Ledger Cell Owner) : Prop where
  apart : ∀ cell other resource otherResource, root cell → root other →
    ledger.cells cell = some resource → ledger.cells other = some otherResource →
    resource.id = otherResource.id → cell = other
  held : ∀ id, Held root ledger id → id < ledger.created ∧ ledger.releases id = 0
  once : ∀ id, ledger.releases id ≤ 1
  ahead : ∀ id, ledger.created ≤ id → ledger.releases id = 0

section Thrift

variable {Owner : Type v} {root : Cell → Prop} {owner : Cell → Owner}
  {ledger : Ledger Cell Owner}

theorem thrifty_empty : Thrifty root (Ledger.empty : Ledger Cell Owner) where
  apart := by
    intro cell other resource otherResource _ _ content
    cases content
  held := by
    rintro id ⟨cell, resource, _, content, _⟩
    cases content
  once := fun _ => Nat.zero_le 1
  ahead := fun _ _ => rfl

theorem Thrifty.shrink {other : Ledger Cell Owner} (thrifty : Thrifty root ledger)
    (kept : ∀ cell resource, other.cells cell = some resource →
      ledger.cells cell = some resource)
    (created : other.created = ledger.created) (releases : other.releases = ledger.releases) :
    Thrifty root other where
  apart := by
    intro cell otherCell resource otherResource isRoot otherRoot content otherContent
    exact thrifty.apart cell otherCell resource otherResource isRoot otherRoot
      (kept _ _ content) (kept _ _ otherContent)
  held := by
    rintro id ⟨cell, resource, isRoot, content, sameId⟩
    rw [created, releases]
    exact thrifty.held id ⟨cell, resource, isRoot, kept _ _ content, sameId⟩
  once := by
    rw [releases]
    exact thrifty.once
  ahead := by
    rw [created, releases]
    exact thrifty.ahead

theorem Thrifty.pass (thrifty : Thrifty root ledger) : Thrifty root ledger.pass where
  apart := thrifty.apart
  held := by
    intro id isHeld
    obtain ⟨made, unreleased⟩ := thrifty.held id isHeld
    refine ⟨Nat.lt_succ_of_lt made, ?_⟩
    exact (Function.update_of_ne (Nat.ne_of_lt made) _ _).trans unreleased
  once := by
    intro id
    change Function.update ledger.releases ledger.created 1 id ≤ 1
    by_cases fresh : id = ledger.created
    · simp [fresh]
    · rw [Function.update_of_ne fresh]
      exact thrifty.once id
  ahead := by
    intro id beyond
    have different : id ≠ ledger.created := Nat.ne_of_gt (Nat.lt_of_succ_le beyond)
    exact (Function.update_of_ne different _ _).trans
      (thrifty.ahead id (Nat.le_of_succ_le beyond))

variable [DecidableEq Cell]

theorem Thrifty.copyAll (thrifty : Thrifty root ledger) (cells : List Cell) :
    Thrifty root (ledger.copyAll none cells) := by
  obtain ⟨created, releases, -⟩ := @copyAll_counters _ _ ledger _ none cells
  refine thrifty.shrink ?_ created releases
  intro cell resource content
  rw [copyAll_cells] at content
  split at content
  · cases content
  · exact content

theorem Thrifty.create (thrifty : Thrifty root ledger) (cell : Cell) :
    Thrifty root (ledger.create owner cell) := by
  -- What a root holds afterwards is the new resource, or older than it.
  have content_cases : ∀ {other resource}, root other →
      (ledger.create owner cell).cells other = some resource →
      (other = cell ∧ resource.id = ledger.created) ∨
        (ledger.cells other = some resource ∧ resource.id < ledger.created) := by
    intro other resource isRoot content
    rw [create_cells] at content
    by_cases same : other = cell
    · rw [same, Function.update_self] at content
      cases content
      exact .inl ⟨same, rfl⟩
    · rw [Function.update_of_ne same] at content
      exact .inr ⟨content, (thrifty.held _ ⟨other, resource, isRoot, content, rfl⟩).1⟩
  constructor
  case apart =>
    intro first second resource otherResource firstRoot secondRoot content otherContent sameId
    rcases content_cases firstRoot content with ⟨rfl, new⟩ | ⟨old, before⟩
    · rcases content_cases secondRoot otherContent with ⟨rfl, _⟩ | ⟨_, otherBefore⟩
      · rfl
      · omega
    · rcases content_cases secondRoot otherContent with ⟨rfl, new⟩ | ⟨otherOld, _⟩
      · omega
      · exact thrifty.apart first second resource otherResource firstRoot secondRoot old
          otherOld sameId
  case held =>
    rintro id ⟨other, resource, isRoot, content, rfl⟩
    rcases content_cases isRoot content with ⟨_, new⟩ | ⟨old, before⟩
    · rw [new]
      exact ⟨Nat.lt_succ_self _, thrifty.ahead _ (Nat.le_refl _)⟩
    · exact ⟨Nat.lt_succ_of_lt before, (thrifty.held _ ⟨other, resource, isRoot, old, rfl⟩).2⟩
  case once => exact thrifty.once
  case ahead => exact fun id beyond => thrifty.ahead id (Nat.le_of_succ_le beyond)

theorem Thrifty.createAll (thrifty : Thrifty root ledger) (cells : List Cell) :
    Thrifty root (ledger.createAll owner cells) := by
  induction cells generalizing ledger with
  | nil => exact thrifty
  | cons cell rest inductionHypothesis =>
      rw [createAll_cons]
      exact inductionHypothesis (thrifty.create cell)

variable [DecidableEq Owner]

theorem Thrifty.release (thrifty : Thrifty root ledger) {cell : Cell} (isRoot : root cell) :
    Thrifty root (ledger.release owner cell) := by
  cases content : ledger.cells cell with
  | none =>
      rw [release_of_none content]
      exact thrifty
  | some resource =>
      obtain ⟨made, unreleased⟩ := thrifty.held resource.id ⟨cell, resource, isRoot, content, rfl⟩
      have kept : ∀ other otherResource,
          (ledger.release owner cell).cells other = some otherResource →
          other ≠ cell ∧ ledger.cells other = some otherResource := by
        intro other otherResource otherContent
        rw [release_cells] at otherContent
        by_cases same : other = cell
        · rw [same, Function.update_self] at otherContent
          cases otherContent
        · exact ⟨same, by rwa [Function.update_of_ne same] at otherContent⟩
      rw [release_of_some content] at kept ⊢
      constructor
      case apart =>
        intro first second _ _ firstRoot secondRoot firstContent secondContent
        exact thrifty.apart first second _ _ firstRoot secondRoot (kept _ _ firstContent).2
          (kept _ _ secondContent).2
      case held =>
        rintro id ⟨other, otherResource, otherRoot, otherContent, rfl⟩
        obtain ⟨different, before⟩ := kept _ _ otherContent
        obtain ⟨older, stillZero⟩ :=
          thrifty.held _ ⟨other, otherResource, otherRoot, before, rfl⟩
        refine ⟨older, (Function.update_of_ne ?_ _ _).trans stillZero⟩
        intro sameId
        exact different
          (thrifty.apart other cell otherResource resource otherRoot isRoot before content sameId)
      case once =>
        intro id
        change Function.update ledger.releases resource.id (ledger.releases resource.id + 1) id ≤ 1
        by_cases same : id = resource.id
        · simp [same, unreleased]
        · rw [Function.update_of_ne same]
          exact thrifty.once id
      case ahead =>
        intro id beyond
        have different : id ≠ resource.id := Nat.ne_of_gt (Nat.lt_of_lt_of_le made beyond)
        exact (Function.update_of_ne different _ _).trans (thrifty.ahead id beyond)

theorem Thrifty.releaseAll {cells : List Cell} (thrifty : Thrifty root ledger)
    (roots : ∀ cell ∈ cells, root cell) : Thrifty root (ledger.releaseAll owner cells) := by
  induction cells generalizing ledger with
  | nil => exact thrifty
  | cons cell rest inductionHypothesis =>
      rw [releaseAll_cons]
      apply inductionHypothesis
      · exact thrifty.release (roots cell List.mem_cons_self)
      · intro other later
        exact roots other (List.mem_cons_of_mem cell later)

end Thrift

variable {layout : Layout Cell} {state next : Guarded Cell}

/-! ## Good states and leaky ones -/

structure Good (layout : Layout Cell) (state : Guarded Cell) : Prop where
  balanced : Balanced layout.Root sameOwner state.ledger
  vacant : state.ready = false → Vacant layout.Root state.ledger

def Leaky (layout : Layout Cell) (state : Guarded Cell) : Prop :=
  Lost layout.Root state.ledger ∨
    state.ready = false ∧ Balanced layout.Root sameOwner state.ledger ∧
      state.ledger.cells layout.first ≠ none

theorem good_start : Good layout (start : Guarded Cell) where
  balanced := balanced_empty
  vacant := by
    intro _ cell _
    rfl

theorem Leaky.not_good (leaky : Leaky layout state) : ¬ Good layout state := by
  rintro ⟨balanced, vacant⟩
  rcases leaky with ⟨id, made, unreleased, notHeld⟩ | ⟨notReady, _, occupied⟩
  · have released := balanced.gone id made notHeld
    omega
  · exact occupied (vacant notReady layout.first layout.root_first)

theorem Good.pass (good : Good layout state) : Good layout state.pass := by
  unfold Guarded.pass
  cases ready : state.ready with
  | false => simpa [ready] using good
  | true =>
      rw [if_pos rfl]
      exact ⟨good.balanced.pass, by simp⟩

theorem Leaky.pass (leaky : Leaky layout state) : Leaky layout state.pass := by
  unfold Guarded.pass
  cases ready : state.ready with
  | false => simpa [ready] using leaky
  | true =>
      rcases leaky with ⟨id, made, unreleased, notHeld⟩ | ⟨notReady, _⟩
      · left
        refine ⟨id, Nat.lt_succ_of_lt made, ?_, notHeld⟩
        exact (Function.update_of_ne (Nat.ne_of_lt made) _ _).trans unreleased
      · rw [ready] at notReady
        cases notReady

section Kept

variable [DecidableEq Cell]

/-! ### Dropped cells -/

theorem not_held_dropped {ledger : Ledger Cell Unit} (id : Nat) :
    ¬ Held layout.Root (ledger.copyAll none layout.cells) id := by
  rintro ⟨cell, resource, isRoot, content, _⟩
  have inside : cell ∈ layout.cells := isRoot
  rw [copyAll_cells, if_pos inside] at content
  cases content

/-- What was not given back before the cells are dropped is lost. -/
theorem lost_dropped {ledger : Ledger Cell Unit} {id : Nat} (made : id < ledger.created)
    (unreleased : ledger.releases id = 0) :
    Lost layout.Root (ledger.copyAll none layout.cells) := by
  obtain ⟨created, releases, _⟩ := @copyAll_counters _ _ ledger _ none layout.cells
  refine ⟨id, ?_, ?_, not_held_dropped id⟩
  · rwa [created]
  · rwa [releases]

theorem good_dropped {ready : Bool} {ledger : Ledger Cell Unit}
    (balanced : Balanced layout.Root sameOwner ledger) (vacant : Vacant layout.Root ledger) :
    Good layout ⟨ready, ledger.copyAll none layout.cells⟩ := by
  have same : SameRoots layout.Root ledger (ledger.copyAll none layout.cells) :=
    copyAll_sameRoots fun cell _ isRoot => vacant cell isRoot
  refine ⟨balanced.congr same, ?_⟩
  intro _ cell isRoot
  exact (same.cells cell isRoot).trans (vacant cell isRoot)

/-! ### Attempts -/

theorem Good.attempt (good : Good layout state) {count : Nat}
    (whole : state.Whole layout (.attempt count)) : Good layout (state.attempt layout count) := by
  unfold Guarded.attempt
  cases ready : state.ready with
  | true => simpa [ready] using good
  | false =>
      have vacant := good.vacant ready
      rw [if_neg (by simp)]
      constructor
      · apply good.balanced.createAll
        · exact fun cell part => layout.root_of_take part
        · exact layout.distinct_take count
        · exact fun cell part => vacant cell (layout.root_of_take part)
      · intro short
        rcases whole with isReady | rfl | all
        · rw [ready] at isReady
          cases isReady
        · exact vacant
        · simp [all] at short

theorem Good.attempt_leaky (good : Good layout state) {count : Nat}
    (partly : ¬ state.Whole layout (.attempt count)) :
    Leaky layout (state.attempt layout count) := by
  simp only [Whole, not_or, Nat.not_le, Bool.not_eq_true] at partly
  obtain ⟨notReady, made_, short⟩ := partly
  have vacant := good.vacant notReady
  right
  unfold Guarded.attempt
  rw [if_neg (by simp [notReady])]
  refine ⟨by simpa using short, ?_, ?_⟩
  · apply good.balanced.createAll
    · exact fun cell part => layout.root_of_take part
    · exact layout.distinct_take count
    · exact fun cell part => vacant cell (layout.root_of_take part)
  · exact Option.isSome_iff_ne_none.mp (createAll_isSome_of_mem sameOwner (layout.first_mem_take made_))

theorem Leaky.attempt (leaky : Leaky layout state) (count : Nat) :
    Leaky layout (state.attempt layout count) := by
  unfold Guarded.attempt
  cases ready : state.ready with
  | true => simpa [ready] using leaky
  | false =>
      rw [if_neg (by simp)]
      rcases leaky with lost | ⟨_, balanced, occupied⟩
      · exact .inl (lost.createAll _)
      · by_cases none_ : count = 0
        · right
          rw [none_]
          exact ⟨by simp [Layout.parts], balanced, occupied⟩
        · left
          apply balanced.createAll_lost
          · exact fun cell part => layout.root_of_take part
          · exact layout.distinct_take count
          · exact layout.first_mem_take none_
          · exact occupied

/-! ### The other actions -/

theorem Good.renew (good : Good layout state) {cell : Cell} (isRoot : layout.Root cell)
    (made : Bool) : Good layout (state.renew cell made) := by
  unfold Guarded.renew
  cases ready : state.ready with
  | false => simpa [ready] using good
  | true =>
      have released := good.balanced.release isRoot
      rw [if_pos rfl]
      refine ⟨?_, by simp⟩
      cases made with
      | false => exact released
      | true =>
          apply released.create isRoot
          rw [release_cells, Function.update_self]

theorem Leaky.renew (leaky : Leaky layout state) {cell : Cell} (isRoot : layout.Root cell)
    (made : Bool) : Leaky layout (state.renew cell made) := by
  unfold Guarded.renew
  cases ready : state.ready with
  | false => simpa [ready] using leaky
  | true =>
      rcases leaky with lost | ⟨notReady, _⟩
      · left
        have released : Lost layout.Root (state.ledger.release sameOwner cell) :=
          lost.release isRoot
        cases made with
        | false => exact released
        | true => exact released.create cell
      · rw [ready] at notReady
        cases notReady

theorem vacant_releaseAll (ledger : Ledger Cell Unit) :
    Vacant layout.Root (ledger.releaseAll sameOwner layout.cells) := by
  intro cell isRoot
  have inside : cell ∈ layout.cells := isRoot
  rw [releaseAll_cells, if_pos inside]

theorem Good.close (good : Good layout state) :
    Good layout (state.close layout) ∧ Vacant layout.Root (state.close layout).ledger := by
  unfold Guarded.close
  cases ready : state.ready with
  | false =>
      rw [if_neg (by simp)]
      exact ⟨good, good.vacant ready⟩
  | true =>
      rw [if_pos rfl]
      have vacant := @vacant_releaseAll _ layout _ state.ledger
      exact ⟨⟨stable_balanced.releaseAll (fun _ inside => inside) good.balanced, fun _ => vacant⟩,
        vacant⟩

theorem Leaky.close (leaky : Leaky layout state) : Leaky layout (state.close layout) := by
  unfold Guarded.close
  cases ready : state.ready with
  | false => simpa [ready] using leaky
  | true =>
      rcases leaky with lost | ⟨notReady, _⟩
      · exact .inl ((stable_lost sameOwner).releaseAll (fun _ inside => inside) lost)
      · rw [ready] at notReady
        cases notReady

theorem Good.drop (good : Good layout state) : Good layout (state.drop layout) :=
  good_dropped good.close.1.balanced good.close.2

theorem Leaky.drop (leaky : Leaky layout state) : Leaky layout (state.drop layout) := by
  left
  rcases leaky.close with ⟨id, made, unreleased, _⟩ | ⟨_, balanced, occupied⟩
  · exact lost_dropped made unreleased
  · obtain ⟨resource, content⟩ := Option.ne_none_iff_exists'.mp occupied
    obtain ⟨made, unreleased⟩ :=
      balanced.held resource.id ⟨layout.first, resource, layout.root_first, content, rfl⟩
    exact lost_dropped made unreleased

/-! ## Runs -/

theorem step_advances (action : GuardedAction Cell)
    (invariant : Good layout state ∨ Leaky layout state)
    (stepped : step layout state action = some next) :
    (Good layout next ∨ Leaky layout next) ∧
      (Good layout next ↔ Good layout state ∧ state.Whole layout action) := by
  -- A leaky state stays leaky, and a good one stays good unless an attempt stops halfway.
  have leaky_of : Leaky layout next → ¬ (Good layout state ∧ state.Whole layout action) →
      (Good layout next ∨ Leaky layout next) ∧
        (Good layout next ↔ Good layout state ∧ state.Whole layout action) :=
    fun leaky not_ => ⟨.inr leaky, iff_of_false leaky.not_good not_⟩
  have good_of : Good layout next → Good layout state ∧ state.Whole layout action →
      (Good layout next ∨ Leaky layout next) ∧
        (Good layout next ↔ Good layout state ∧ state.Whole layout action) :=
    fun good both => ⟨.inl good, iff_of_true good both⟩
  have notBoth : Leaky layout state → ¬ (Good layout state ∧ state.Whole layout action) :=
    fun leaky both => leaky.not_good both.1
  cases action with
  | attempt count =>
      cases stepped
      rcases invariant with good | leaky
      · by_cases whole : state.Whole layout (.attempt count)
        · exact good_of (good.attempt whole) ⟨good, whole⟩
        · exact leaky_of (good.attempt_leaky whole) fun both => whole both.2
      · exact leaky_of (leaky.attempt count) (notBoth leaky)
  | renew cell made =>
      rw [step, Option.ite_none_right_eq_some, Option.some.injEq] at stepped
      obtain ⟨⟨isRoot, -⟩, rfl⟩ := stepped
      rcases invariant with good | leaky
      · exact good_of (good.renew isRoot made) ⟨good, trivial⟩
      · exact leaky_of (leaky.renew isRoot made) (notBoth leaky)
  | pass =>
      cases stepped
      rcases invariant with good | leaky
      · exact good_of good.pass ⟨good, trivial⟩
      · exact leaky_of leaky.pass (notBoth leaky)
  | close =>
      cases stepped
      rcases invariant with good | leaky
      · exact good_of good.close.1 ⟨good, trivial⟩
      · exact leaky_of leaky.close (notBoth leaky)
  | drop =>
      cases stepped
      rcases invariant with good | leaky
      · exact good_of good.drop ⟨good, trivial⟩
      · exact leaky_of leaky.drop (notBoth leaky)

theorem settled_close_iff (invariant : Good layout state ∨ Leaky layout state) :
    (state.close layout).ledger.Settled ↔ Good layout state := by
  rcases invariant with good | leaky
  · exact iff_of_true (good.close.1.balanced.settled_iff.mpr good.close.2) good
  · refine iff_of_false ?_ leaky.not_good
    rcases leaky.close with lost | ⟨_, balanced, occupied⟩
    · exact lost.not_settled
    · intro settled
      exact occupied (balanced.settled_iff.mp settled layout.first layout.root_first)

theorem settled_drop_iff (invariant : Good layout state ∨ Leaky layout state) :
    (state.drop layout).ledger.Settled ↔ Good layout state := by
  obtain ⟨created, releases, misplaced⟩ :=
    @copyAll_counters _ _ (state.close layout).ledger _ none layout.cells
  rw [← settled_close_iff invariant]
  unfold Settled drop
  rw [created, releases, misplaced]

/-- A run keeps the invariant, and it ends well exactly if it started well and every attempt
got nowhere or all the way. -/
theorem exec_advances {finish : Guarded Cell} {actions : List (GuardedAction Cell)}
    (invariant : Good layout state ∨ Leaky layout state)
    (executed : Machine.exec (step layout) state actions = some finish) :
    (Good layout finish ∨ Leaky layout finish) ∧
      (Good layout finish ↔
        Good layout state ∧ Machine.Along (step layout) (Whole layout) state actions) := by
  have advances : ∀ state action next, Good layout state ∨ Leaky layout state →
      step layout state action = some next →
      (Good layout next ∨ Leaky layout next) ∧
        (Good layout next ↔ Good layout state ∧ Whole layout state action) :=
    fun _ action _ invariant stepped => step_advances action invariant stepped
  constructor
  · exact Machine.exec_invariant
      (fun state action next invariant stepped => (advances state action next invariant stepped).1)
      invariant executed
  · exact Machine.good_iff_along advances invariant executed

end Kept

/-! ## Sound states -/

structure Sound (layout : Layout Cell) (state : Guarded Cell) : Prop where
  thrifty : Thrifty layout.Root state.ledger
  complete : state.ready = true → ∀ part ∈ layout.parts, state.ledger.cells part ≠ none

theorem sound_start : Sound layout (start : Guarded Cell) where
  thrifty := thrifty_empty
  complete := by
    intro ready
    cases ready

theorem Sound.close [DecidableEq Cell] (sound : Sound layout state) :
    Sound layout (state.close layout) := by
  unfold Guarded.close
  cases ready : state.ready with
  | false => exact sound
  | true =>
      rw [if_pos rfl]
      refine ⟨sound.thrifty.releaseAll fun _ inside => inside, ?_⟩
      intro unready
      cases unready

theorem step_sound [DecidableEq Cell] {action : GuardedAction Cell} (sound : Sound layout state)
    (stepped : step layout state action = some next) : Sound layout next := by
  cases action with
  | attempt count =>
      cases stepped
      unfold Guarded.attempt
      cases ready : state.ready with
      | true => exact sound
      | false =>
          rw [if_neg Bool.false_ne_true]
          refine ⟨sound.thrifty.createAll _, ?_⟩
          intro all part isPart
          have everything : layout.parts.take count = layout.parts :=
            List.take_of_length_le (of_decide_eq_true all)
          rw [everything]
          exact Option.isSome_iff_ne_none.mp (createAll_isSome_of_mem sameOwner isPart)
  | renew cell made =>
      rw [step, Option.ite_none_right_eq_some, Option.some.injEq] at stepped
      obtain ⟨⟨isRoot, noPart⟩, rfl⟩ := stepped
      have released : Thrifty layout.Root (state.ledger.release sameOwner cell) :=
        sound.thrifty.release isRoot
      unfold Guarded.renew
      cases ready : state.ready with
      | false => exact sound
      | true =>
          rw [if_pos rfl]
          constructor
          · cases made with
            | false => exact released
            | true => exact released.create cell
          · intro _ part isPart
            have different : part ≠ cell := ne_of_mem_of_not_mem isPart noPart
            have before := sound.complete ready part isPart
            cases made with
            | false =>
                change (state.ledger.release sameOwner cell).cells part ≠ none
                rwa [release_cells, Function.update_of_ne different]
            | true =>
                change ((state.ledger.release sameOwner cell).create sameOwner cell).cells part ≠ none
                rwa [create_cells, Function.update_of_ne different, release_cells,
                  Function.update_of_ne different]
  | pass =>
      cases stepped
      unfold Guarded.pass
      cases ready : state.ready with
      | false => exact sound
      | true =>
          rw [if_pos rfl]
          exact ⟨sound.thrifty.pass, fun _ => sound.complete ready⟩
  | close =>
      cases stepped
      exact sound.close
  | drop =>
      cases stepped
      refine ⟨sound.close.thrifty.copyAll _, ?_⟩
      intro unready
      cases unready

/-- In no run anything is released twice, and a ready component holds all its parts. -/
theorem exec_sound [DecidableEq Cell] {finish : Guarded Cell}
    {actions : List (GuardedAction Cell)} (sound : Sound layout state)
    (executed : Machine.exec (step layout) state actions = some finish) : Sound layout finish :=
  Machine.exec_invariant (fun _ _ _ sound stepped => step_sound sound stepped) sound executed

end Guarded

end RejiStudio.Lib
