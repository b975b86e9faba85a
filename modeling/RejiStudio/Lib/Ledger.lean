import Mathlib.Data.List.Basic
import Mathlib.Data.List.Nodup
import Mathlib.Logic.Function.Basic
import Mathlib.Tactic.Common

/-!
# Ledgers of resources

A program keeps the resources it makes in cells and releases what a cell holds.  The
ledger numbers the resources, counts the releases of each and notes a release that names
another owner than the one the resource was made for.  Some cells only repeat what another
cell holds; the others are the roots.
-/

namespace RejiStudio.Lib

universe u v

structure Resource (Owner : Type v) where
  id : Nat
  owner : Owner
  deriving DecidableEq

/-- `created` is the number of the next resource. -/
structure Ledger (Cell : Type u) (Owner : Type v) where
  cells : Cell → Option (Resource Owner)
  created : Nat
  releases : Nat → Nat
  misplaced : Bool

namespace Ledger

variable {Cell : Type u} {Owner : Type v} {root : Cell → Prop} {owner : Cell → Owner}
  {ledger : Ledger Cell Owner}

def empty : Ledger Cell Owner := ⟨fun _ => none, 0, fun _ => 0, false⟩

def pass (ledger : Ledger Cell Owner) : Ledger Cell Owner :=
  { ledger with
    created := ledger.created + 1
    releases := Function.update ledger.releases ledger.created 1 }

def Settled (ledger : Ledger Cell Owner) : Prop :=
  ledger.misplaced = false ∧ ∀ id < ledger.created, ledger.releases id = 1

def Held (root : Cell → Prop) (ledger : Ledger Cell Owner) (id : Nat) : Prop :=
  ∃ cell resource, root cell ∧ ledger.cells cell = some resource ∧ resource.id = id

def Vacant (root : Cell → Prop) (ledger : Ledger Cell Owner) : Prop :=
  ∀ cell, root cell → ledger.cells cell = none

/-! ## Balanced ledgers -/

/-- The root cells hold different resources, each with its owner, and every other
resource was released once. -/
structure Balanced (root : Cell → Prop) (owner : Cell → Owner)
    (ledger : Ledger Cell Owner) : Prop where
  placed : ledger.misplaced = false
  owned : ∀ cell resource, root cell → ledger.cells cell = some resource →
    resource.owner = owner cell
  apart : ∀ cell other resource otherResource, root cell → root other →
    ledger.cells cell = some resource → ledger.cells other = some otherResource →
    resource.id = otherResource.id → cell = other
  held : ∀ id, Held root ledger id → id < ledger.created ∧ ledger.releases id = 0
  gone : ∀ id < ledger.created, ¬ Held root ledger id → ledger.releases id = 1
  ahead : ∀ id, ledger.created ≤ id → ledger.releases id = 0

theorem balanced_empty : Balanced root owner (empty : Ledger Cell Owner) where
  placed := rfl
  owned := by
    intro cell resource _ content
    cases content
  apart := by
    intro cell other resource otherResource _ _ content
    cases content
  held := by
    rintro id ⟨cell, resource, _, content, _⟩
    cases content
  gone := by
    intro id made
    exact absurd made (Nat.not_lt_zero id)
  ahead := by
    intro id _
    rfl

/-- In a balanced ledger everything is settled exactly if the roots are vacant. -/
theorem Balanced.settled_iff (balanced : Balanced root owner ledger) :
    ledger.Settled ↔ Vacant root ledger := by
  constructor
  · rintro ⟨-, once⟩ cell isRoot
    cases content : ledger.cells cell with
    | none => rfl
    | some resource =>
        obtain ⟨made, unreleased⟩ :=
          balanced.held resource.id ⟨cell, resource, isRoot, content, rfl⟩
        have released := once resource.id made
        omega
  · intro vacant
    refine ⟨balanced.placed, fun id made => balanced.gone id made ?_⟩
    rintro ⟨cell, resource, isRoot, content, -⟩
    rw [vacant cell isRoot] at content
    cases content

/-- The ledger may be read with other owners that agree on what the roots hold. -/
theorem Balanced.reown {other : Cell → Owner} (balanced : Balanced root owner ledger)
    (agree : ∀ cell resource, root cell → ledger.cells cell = some resource →
      owner cell = other cell) : Balanced root other ledger where
  placed := balanced.placed
  owned := by
    intro cell resource isRoot content
    rw [← agree cell resource isRoot content]
    exact balanced.owned cell resource isRoot content
  apart := balanced.apart
  held := balanced.held
  gone := balanced.gone
  ahead := balanced.ahead

theorem Balanced.pass (balanced : Balanced root owner ledger) :
    Balanced root owner ledger.pass where
  placed := balanced.placed
  owned := balanced.owned
  apart := balanced.apart
  held := by
    intro id isHeld
    obtain ⟨made, unreleased⟩ := balanced.held id isHeld
    refine ⟨Nat.lt_succ_of_lt made, ?_⟩
    exact (Function.update_of_ne (Nat.ne_of_lt made) _ _).trans unreleased
  gone := by
    intro id made notHeld
    by_cases same : id = ledger.created
    · rw [same]
      exact Function.update_self _ _ _
    · have before := Nat.lt_of_le_of_ne (Nat.le_of_lt_succ made) same
      exact (Function.update_of_ne same _ _).trans (balanced.gone id before notHeld)
  ahead := by
    intro id beyond
    have different : id ≠ ledger.created := Nat.ne_of_gt beyond
    exact (Function.update_of_ne different _ _).trans (balanced.ahead id (Nat.le_of_succ_le beyond))

structure SameRoots (root : Cell → Prop) (ledger other : Ledger Cell Owner) : Prop where
  cells : ∀ cell, root cell → other.cells cell = ledger.cells cell
  created : other.created = ledger.created
  releases : other.releases = ledger.releases
  misplaced : other.misplaced = ledger.misplaced

theorem SameRoots.held_iff {other : Ledger Cell Owner} (same : SameRoots root ledger other)
    (id : Nat) : Held root other id ↔ Held root ledger id := by
  constructor
  · rintro ⟨cell, resource, isRoot, content, sameId⟩
    exact ⟨cell, resource, isRoot, (same.cells cell isRoot).symm.trans content, sameId⟩
  · rintro ⟨cell, resource, isRoot, content, sameId⟩
    exact ⟨cell, resource, isRoot, (same.cells cell isRoot).trans content, sameId⟩

theorem Balanced.congr {other : Ledger Cell Owner} (balanced : Balanced root owner ledger)
    (same : SameRoots root ledger other) : Balanced root owner other where
  placed := by rw [same.misplaced, balanced.placed]
  owned := by
    intro cell resource isRoot content
    rw [same.cells cell isRoot] at content
    exact balanced.owned cell resource isRoot content
  apart := by
    intro first second resource otherResource firstRoot secondRoot content otherContent
    rw [same.cells first firstRoot] at content
    rw [same.cells second secondRoot] at otherContent
    exact balanced.apart first second resource otherResource firstRoot secondRoot content
      otherContent
  held := by
    intro id isHeld
    rw [same.created, same.releases]
    exact balanced.held id ((same.held_iff id).mp isHeld)
  gone := by
    intro id made notHeld
    rw [same.created] at made
    rw [same.held_iff] at notHeld
    rw [same.releases]
    exact balanced.gone id made notHeld
  ahead := by
    intro id beyond
    rw [same.created] at beyond
    rw [same.releases]
    exact balanced.ahead id beyond

/-- A resource that no root holds and that was never released. -/
def Lost (root : Cell → Prop) (ledger : Ledger Cell Owner) : Prop :=
  ∃ id < ledger.created, ledger.releases id = 0 ∧ ¬ Held root ledger id

theorem Lost.not_settled (lost : Lost root ledger) : ¬ ledger.Settled := by
  obtain ⟨id, made, unreleased, -⟩ := lost
  rintro ⟨-, once⟩
  have released := once id made
  omega

theorem Lost.congr {other : Ledger Cell Owner} (lost : Lost root ledger)
    (same : SameRoots root ledger other) : Lost root other := by
  obtain ⟨id, made, unreleased, notHeld⟩ := lost
  refine ⟨id, ?_, ?_, ?_⟩
  · rwa [same.created]
  · rwa [same.releases]
  · rwa [same.held_iff]

/-- A resource was released for another owner, or a root that holds it will do so. -/
def Misowned (root : Cell → Prop) (owner : Cell → Owner) (ledger : Ledger Cell Owner) : Prop :=
  ledger.misplaced = true ∨
    ∃ cell resource, root cell ∧ ledger.cells cell = some resource ∧ resource.owner ≠ owner cell

theorem Misowned.not_settled (misowned : Misowned root owner ledger)
    (vacant : Vacant root ledger) : ¬ ledger.Settled := by
  rintro ⟨placed, -⟩
  rcases misowned with misplaced | ⟨cell, resource, isRoot, content, -⟩
  · rw [placed] at misplaced
    cases misplaced
  · rw [vacant cell isRoot] at content
    cases content

theorem Misowned.congr {other : Ledger Cell Owner} (misowned : Misowned root owner ledger)
    (same : SameRoots root ledger other) : Misowned root owner other := by
  rcases misowned with misplaced | ⟨cell, resource, isRoot, content, foreign⟩
  · exact Or.inl (same.misplaced.trans misplaced)
  · exact Or.inr ⟨cell, resource, isRoot, (same.cells cell isRoot).trans content, foreign⟩

/-- The cells whose resources were made, up to the first that was not. -/
def made : List (Cell × Bool) → List Cell
  | [] => []
  | (cell, answer) :: rest => if answer = true then cell :: made rest else []

theorem made_prefix_cells (answers : List (Cell × Bool)) :
    made answers <+: answers.map Prod.fst := by
  induction answers with
  | nil => exact List.prefix_refl []
  | cons head rest inductionHypothesis =>
      obtain ⟨cell, answer⟩ := head
      cases answer with
      | true => exact (List.prefix_cons_inj cell).mpr inductionHypothesis
      | false => exact List.nil_prefix

/-! ## Making and repeating -/

section Making

variable [DecidableEq Cell]

/-- Make a resource for a cell, over whatever the cell holds. -/
def create (ledger : Ledger Cell Owner) (owner : Cell → Owner) (cell : Cell) :
    Ledger Cell Owner :=
  { ledger with
    cells := Function.update ledger.cells cell (some ⟨ledger.created, owner cell⟩)
    created := ledger.created + 1 }

def copy (ledger : Ledger Cell Owner) (content : Option (Resource Owner)) (cell : Cell) :
    Ledger Cell Owner :=
  { ledger with cells := Function.update ledger.cells cell content }

def createAll (ledger : Ledger Cell Owner) (owner : Cell → Owner) (cells : List Cell) :
    Ledger Cell Owner :=
  cells.foldl (fun ledger cell => ledger.create owner cell) ledger

def copyAll (ledger : Ledger Cell Owner) (content : Option (Resource Owner))
    (cells : List Cell) : Ledger Cell Owner :=
  cells.foldl (fun ledger cell => ledger.copy content cell) ledger

theorem create_cells (owner : Cell → Owner) (cell : Cell) :
    (ledger.create owner cell).cells =
      Function.update ledger.cells cell (some ⟨ledger.created, owner cell⟩) := rfl

theorem createAll_cons (owner : Cell → Owner) (cell : Cell) (rest : List Cell) :
    ledger.createAll owner (cell :: rest) =
      (ledger.create owner cell).createAll owner rest := rfl

theorem copyAll_cons (content : Option (Resource Owner)) (cell : Cell) (rest : List Cell) :
    ledger.copyAll content (cell :: rest) = (ledger.copy content cell).copyAll content rest := rfl

theorem copyAll_cells (content : Option (Resource Owner)) (cells : List Cell) (cell : Cell) :
    (ledger.copyAll content cells).cells cell =
      if cell ∈ cells then content else ledger.cells cell := by
  induction cells generalizing ledger with
  | nil => rfl
  | cons head rest inductionHypothesis =>
      rw [copyAll_cons, inductionHypothesis]
      by_cases same : cell = head
      · simp [same, copy]
      · simp [same, copy, Function.update_of_ne]

theorem createAll_cells_of_not_mem (owner : Cell → Owner) {cells : List Cell} {cell : Cell}
    (outside : cell ∉ cells) :
    (ledger.createAll owner cells).cells cell = ledger.cells cell := by
  induction cells generalizing ledger with
  | nil => rfl
  | cons head rest inductionHypothesis =>
      rw [createAll_cons, inductionHypothesis (List.not_mem_of_not_mem_cons outside), create_cells]
      exact Function.update_of_ne (List.ne_of_not_mem_cons outside) _ _

theorem createAll_isSome_of_mem (owner : Cell → Owner) {cells : List Cell} {cell : Cell}
    (inside : cell ∈ cells) : ((ledger.createAll owner cells).cells cell).isSome = true := by
  induction cells generalizing ledger with
  | nil => exact absurd inside List.not_mem_nil
  | cons head rest inductionHypothesis =>
      rw [createAll_cons]
      by_cases later : cell ∈ rest
      · exact inductionHypothesis later
      · obtain rfl := (List.mem_cons.mp inside).resolve_right later
        rw [createAll_cells_of_not_mem owner later, create_cells, Function.update_self]
        rfl

theorem held_create_iff {cell : Cell} (isRoot : root cell) (vacant : ledger.cells cell = none)
    (id : Nat) :
    Held root (ledger.create owner cell) id ↔ Held root ledger id ∨ id = ledger.created := by
  constructor
  · rintro ⟨other, resource, otherRoot, content, rfl⟩
    rw [create_cells] at content
    by_cases same : other = cell
    · rw [same, Function.update_self] at content
      cases content
      exact Or.inr rfl
    · rw [Function.update_of_ne same] at content
      exact Or.inl ⟨other, resource, otherRoot, content, rfl⟩
  · rintro (⟨other, resource, otherRoot, content, rfl⟩ | rfl)
    · refine ⟨other, resource, otherRoot, ?_, rfl⟩
      have different : other ≠ cell := by
        rintro rfl
        rw [vacant] at content
        cases content
      rw [create_cells, Function.update_of_ne different, content]
    · exact ⟨cell, _, isRoot, Function.update_self _ _ _, rfl⟩

theorem Balanced.create {cell : Cell} (balanced : Balanced root owner ledger)
    (isRoot : root cell) (vacant : ledger.cells cell = none) :
    Balanced root owner (ledger.create owner cell) where
  placed := balanced.placed
  owned := by
    intro other resource otherRoot content
    rw [create_cells] at content
    by_cases same : other = cell
    · rw [same, Function.update_self] at content
      cases content
      rw [same]
    · rw [Function.update_of_ne same] at content
      exact balanced.owned other resource otherRoot content
  apart := by
    -- what the other roots hold is older than the new resource
    have older : ∀ other resource, root other → ledger.cells other = some resource →
        resource.id < ledger.created := by
      intro other resource otherRoot content
      exact (balanced.held resource.id ⟨other, resource, otherRoot, content, rfl⟩).1
    intro first second resource otherResource firstRoot secondRoot content otherContent sameId
    rw [create_cells] at content otherContent
    by_cases isFirst : first = cell
    · rw [isFirst, Function.update_self] at content
      by_cases isSecond : second = cell
      · rw [isFirst, isSecond]
      · rw [Function.update_of_ne isSecond] at otherContent
        have before := older second otherResource secondRoot otherContent
        cases content
        exact absurd sameId (Nat.ne_of_gt before)
    · rw [Function.update_of_ne isFirst] at content
      by_cases isSecond : second = cell
      · rw [isSecond, Function.update_self] at otherContent
        have before := older first resource firstRoot content
        cases otherContent
        exact absurd sameId (Nat.ne_of_lt before)
      · rw [Function.update_of_ne isSecond] at otherContent
        exact balanced.apart first second resource otherResource firstRoot secondRoot content
          otherContent sameId
  held := by
    intro id isHeld
    rcases (held_create_iff isRoot vacant id).mp isHeld with before | rfl
    · obtain ⟨made, unreleased⟩ := balanced.held id before
      exact ⟨Nat.lt_succ_of_lt made, unreleased⟩
    · exact ⟨Nat.lt_succ_self _, balanced.ahead _ (Nat.le_refl _)⟩
  gone := by
    intro id made notHeld
    rw [held_create_iff isRoot vacant, not_or] at notHeld
    exact balanced.gone id (Nat.lt_of_le_of_ne (Nat.le_of_lt_succ made) notHeld.2) notHeld.1
  ahead := by
    intro id beyond
    exact balanced.ahead id (Nat.le_of_succ_le beyond)

theorem Balanced.createAll {cells : List Cell} (balanced : Balanced root owner ledger)
    (roots : ∀ cell ∈ cells, root cell) (distinct : cells.Nodup)
    (vacant : ∀ cell ∈ cells, ledger.cells cell = none) :
    Balanced root owner (ledger.createAll owner cells) := by
  induction cells generalizing ledger with
  | nil => exact balanced
  | cons cell rest inductionHypothesis =>
      obtain ⟨fresh, distinctRest⟩ := List.nodup_cons.mp distinct
      have first : cell ∈ cell :: rest := List.mem_cons_self
      rw [createAll_cons]
      apply inductionHypothesis (balanced.create (roots cell first) (vacant cell first))
      · intro other later
        exact roots other (List.mem_cons_of_mem cell later)
      · exact distinctRest
      · intro other later
        have different : other ≠ cell := by
          rintro rfl
          exact fresh later
        rw [create_cells, Function.update_of_ne different]
        exact vacant other (List.mem_cons_of_mem cell later)

theorem Balanced.create_lost {cell : Cell} {resource : Resource Owner}
    (balanced : Balanced root owner ledger) (isRoot : root cell)
    (content : ledger.cells cell = some resource) : Lost root (ledger.create owner cell) := by
  obtain ⟨older, unreleased⟩ := balanced.held resource.id ⟨cell, resource, isRoot, content, rfl⟩
  refine ⟨resource.id, Nat.lt_succ_of_lt older, unreleased, ?_⟩
  rintro ⟨other, otherResource, otherRoot, otherContent, sameId⟩
  rw [create_cells] at otherContent
  by_cases same : other = cell
  · rw [same, Function.update_self] at otherContent
    cases otherContent
    exact absurd sameId (Nat.ne_of_gt older)
  · rw [Function.update_of_ne same] at otherContent
    exact same (balanced.apart other cell otherResource resource otherRoot isRoot otherContent
      content sameId)

theorem Lost.create (lost : Lost root ledger) (cell : Cell) :
    Lost root (ledger.create owner cell) := by
  obtain ⟨id, older, unreleased, notHeld⟩ := lost
  refine ⟨id, Nat.lt_succ_of_lt older, unreleased, ?_⟩
  rintro ⟨other, resource, otherRoot, content, sameId⟩
  rw [create_cells] at content
  by_cases same : other = cell
  · rw [same, Function.update_self] at content
    cases content
    exact absurd sameId (Nat.ne_of_gt older)
  · rw [Function.update_of_ne same] at content
    exact notHeld ⟨other, resource, otherRoot, content, sameId⟩

theorem Lost.createAll (lost : Lost root ledger) (cells : List Cell) :
    Lost root (ledger.createAll owner cells) := by
  induction cells generalizing ledger with
  | nil => exact lost
  | cons cell rest inductionHypothesis =>
      rw [createAll_cons]
      exact inductionHypothesis (lost.create cell)

theorem Balanced.createAll_lost {cells : List Cell} (balanced : Balanced root owner ledger)
    (roots : ∀ cell ∈ cells, root cell) (distinct : cells.Nodup) {occupied : Cell}
    (inside : occupied ∈ cells) (content : ledger.cells occupied ≠ none) :
    Lost root (ledger.createAll owner cells) := by
  induction cells generalizing ledger with
  | nil => exact absurd inside List.not_mem_nil
  | cons cell rest inductionHypothesis =>
      obtain ⟨fresh, distinctRest⟩ := List.nodup_cons.mp distinct
      have isRoot := roots cell List.mem_cons_self
      rw [createAll_cons]
      cases headContent : ledger.cells cell with
      | some resource => exact (balanced.create_lost isRoot headContent).createAll rest
      | none =>
          have different : occupied ≠ cell := by
            rintro rfl
            exact content headContent
          have later := (List.mem_cons.mp inside).resolve_left different
          apply inductionHypothesis (balanced.create isRoot headContent)
          · intro other otherLater
            exact roots other (List.mem_cons_of_mem cell otherLater)
          · exact distinctRest
          · exact later
          · rwa [create_cells, Function.update_of_ne different]

theorem copyAll_counters (content : Option (Resource Owner)) (cells : List Cell) :
    (ledger.copyAll content cells).created = ledger.created ∧
      (ledger.copyAll content cells).releases = ledger.releases ∧
      (ledger.copyAll content cells).misplaced = ledger.misplaced := by
  induction cells generalizing ledger with
  | nil => exact ⟨rfl, rfl, rfl⟩
  | cons cell rest inductionHypothesis =>
      rw [copyAll_cons]
      exact inductionHypothesis

theorem copyAll_sameRoots {content : Option (Resource Owner)} {cells : List Cell}
    (agree : ∀ cell ∈ cells, root cell → ledger.cells cell = content) :
    SameRoots root ledger (ledger.copyAll content cells) := by
  obtain ⟨created, releases, misplaced⟩ := @copyAll_counters _ _ ledger _ content cells
  refine ⟨?_, created, releases, misplaced⟩
  intro cell isRoot
  rw [copyAll_cells]
  by_cases inside : cell ∈ cells
  · rw [if_pos inside, agree cell inside isRoot]
  · rw [if_neg inside]

end Making

/-! ## Releasing -/

section Releasing

variable [DecidableEq Cell] [DecidableEq Owner]

def release (ledger : Ledger Cell Owner) (owner : Cell → Owner) (cell : Cell) :
    Ledger Cell Owner :=
  match ledger.cells cell with
  | none => ledger
  | some resource =>
      { ledger with
        cells := Function.update ledger.cells cell none
        releases := Function.update ledger.releases resource.id (ledger.releases resource.id + 1)
        misplaced := ledger.misplaced || decide (resource.owner ≠ owner cell) }

def releaseAll (ledger : Ledger Cell Owner) (owner : Cell → Owner) (cells : List Cell) :
    Ledger Cell Owner :=
  cells.foldl (fun ledger cell => ledger.release owner cell) ledger

theorem release_cells (owner : Cell → Owner) (cell : Cell) :
    (ledger.release owner cell).cells = Function.update ledger.cells cell none := by
  unfold release
  cases content : ledger.cells cell with
  | none =>
      change ledger.cells = _
      rw [← content, Function.update_eq_self]
  | some resource => rfl

theorem release_of_none {cell : Cell} (content : ledger.cells cell = none) :
    ledger.release owner cell = ledger := by
  unfold release
  rw [content]

theorem release_of_some {cell : Cell} {resource : Resource Owner}
    (content : ledger.cells cell = some resource) :
    ledger.release owner cell =
      { ledger with
        cells := Function.update ledger.cells cell none
        releases := Function.update ledger.releases resource.id (ledger.releases resource.id + 1)
        misplaced := ledger.misplaced || decide (resource.owner ≠ owner cell) } := by
  unfold release
  rw [content]

theorem releaseAll_cons (owner : Cell → Owner) (cell : Cell) (rest : List Cell) :
    ledger.releaseAll owner (cell :: rest) =
      (ledger.release owner cell).releaseAll owner rest := rfl

theorem releaseAll_cells (owner : Cell → Owner) (cells : List Cell) (cell : Cell) :
    (ledger.releaseAll owner cells).cells cell =
      if cell ∈ cells then none else ledger.cells cell := by
  induction cells generalizing ledger with
  | nil => rfl
  | cons head rest inductionHypothesis =>
      rw [releaseAll_cons, inductionHypothesis, release_cells]
      by_cases same : cell = head
      · simp [same]
      · simp [same, Function.update_of_ne]

theorem Balanced.held_release_iff {cell : Cell} {resource : Resource Owner}
    (balanced : Balanced root owner ledger) (isRoot : root cell)
    (content : ledger.cells cell = some resource) (id : Nat) :
    Held root (ledger.release owner cell) id ↔ Held root ledger id ∧ id ≠ resource.id := by
  constructor
  · rintro ⟨other, otherResource, otherRoot, otherContent, rfl⟩
    rw [release_cells] at otherContent
    by_cases same : other = cell
    · rw [same, Function.update_self] at otherContent
      cases otherContent
    · rw [Function.update_of_ne same] at otherContent
      refine ⟨⟨other, otherResource, otherRoot, otherContent, rfl⟩, fun sameId => same ?_⟩
      exact balanced.apart other cell otherResource resource otherRoot isRoot otherContent content
        sameId
  · rintro ⟨⟨other, otherResource, otherRoot, otherContent, rfl⟩, different⟩
    refine ⟨other, otherResource, otherRoot, ?_, rfl⟩
    have apart : other ≠ cell := by
      rintro rfl
      rw [content] at otherContent
      cases otherContent
      exact different rfl
    rw [release_cells, Function.update_of_ne apart, otherContent]

theorem Balanced.release {cell : Cell} (balanced : Balanced root owner ledger)
    (isRoot : root cell) : Balanced root owner (ledger.release owner cell) := by
  cases content : ledger.cells cell with
  | none =>
      rw [release_of_none content]
      exact balanced
  | some resource =>
      obtain ⟨made, unreleased⟩ := balanced.held resource.id ⟨cell, resource, isRoot, content, rfl⟩
      have holds := balanced.held_release_iff isRoot content
      have kept : ∀ other otherResource,
          (ledger.release owner cell).cells other = some otherResource →
          ledger.cells other = some otherResource := by
        intro other otherResource otherContent
        rw [release_cells] at otherContent
        by_cases same : other = cell
        · rw [same, Function.update_self] at otherContent
          cases otherContent
        · rwa [Function.update_of_ne same] at otherContent
      rw [release_of_some content] at holds kept ⊢
      constructor
      case placed =>
        have sameOwner := balanced.owned cell resource isRoot content
        simp [balanced.placed, sameOwner]
      case owned =>
        intro other otherResource otherRoot otherContent
        exact balanced.owned other otherResource otherRoot (kept _ _ otherContent)
      case apart =>
        intro first second _ _ firstRoot secondRoot firstContent secondContent
        exact balanced.apart first second _ _ firstRoot secondRoot (kept _ _ firstContent)
          (kept _ _ secondContent)
      case held =>
        intro id isHeld
        obtain ⟨before, different⟩ := (holds id).mp isHeld
        obtain ⟨older, stillZero⟩ := balanced.held id before
        exact ⟨older, (Function.update_of_ne different _ _).trans stillZero⟩
      case gone =>
        intro id older notHeld
        by_cases same : id = resource.id
        · rw [same]
          refine (Function.update_self _ _ _).trans ?_
          rw [unreleased]
        · have before : ¬ Held root ledger id := fun isHeld =>
            notHeld ((holds id).mpr ⟨isHeld, same⟩)
          exact (Function.update_of_ne same _ _).trans (balanced.gone id older before)
      case ahead =>
        intro id beyond
        have different : id ≠ resource.id := Nat.ne_of_gt (Nat.lt_of_lt_of_le made beyond)
        exact (Function.update_of_ne different _ _).trans (balanced.ahead id beyond)

theorem Lost.release {cell : Cell} (lost : Lost root ledger) (isRoot : root cell) :
    Lost root (ledger.release owner cell) := by
  cases content : ledger.cells cell with
  | none =>
      rw [release_of_none content]
      exact lost
  | some resource =>
      obtain ⟨id, older, unreleased, notHeld⟩ := lost
      have different : id ≠ resource.id := by
        rintro rfl
        exact notHeld ⟨cell, resource, isRoot, content, rfl⟩
      have stillNotHeld : ¬ Held root (ledger.release owner cell) id := by
        rintro ⟨other, otherResource, otherRoot, otherContent, sameId⟩
        rw [release_cells] at otherContent
        by_cases same : other = cell
        · rw [same, Function.update_self] at otherContent
          cases otherContent
        · rw [Function.update_of_ne same] at otherContent
          exact notHeld ⟨other, otherResource, otherRoot, otherContent, sameId⟩
      rw [release_of_some content] at stillNotHeld ⊢
      exact ⟨id, older, (Function.update_of_ne different _ _).trans unreleased, stillNotHeld⟩

theorem Misowned.release (misowned : Misowned root owner ledger) (cell : Cell) :
    Misowned root owner (ledger.release owner cell) := by
  cases content : ledger.cells cell with
  | none =>
      rw [release_of_none content]
      exact misowned
  | some resource =>
      rw [release_of_some content]
      rcases misowned with misplaced | ⟨other, otherResource, otherRoot, otherContent, foreign⟩
      · left
        simp [misplaced]
      · by_cases same : other = cell
        · rw [same, content] at otherContent
          cases otherContent
          left
          simpa [same] using Or.inr foreign
        · right
          refine ⟨other, otherResource, otherRoot, ?_, foreign⟩
          exact (Function.update_of_ne same _ _).trans otherContent

/-- A property that releases of roots and changes outside the roots leave alone. -/
structure Stable (root : Cell → Prop) (owner : Cell → Owner)
    (Kept : Ledger Cell Owner → Prop) : Prop where
  release : ∀ ledger cell, root cell → Kept ledger → Kept (ledger.release owner cell)
  congr : ∀ ledger other, SameRoots root ledger other → Kept ledger → Kept other

theorem stable_balanced : Stable root owner (Balanced root owner) where
  release := fun _ _ isRoot balanced => balanced.release isRoot
  congr := fun _ _ same balanced => balanced.congr same

theorem stable_lost (owner : Cell → Owner) : Stable root owner (Lost root) where
  release := fun _ _ isRoot lost => lost.release isRoot
  congr := fun _ _ same lost => lost.congr same

theorem stable_misowned : Stable root owner (Misowned root owner) where
  release := fun _ cell _ misowned => misowned.release cell
  congr := fun _ _ same misowned => misowned.congr same

theorem Stable.releaseAll {Kept : Ledger Cell Owner → Prop} {cells : List Cell}
    (stable : Stable root owner Kept) (roots : ∀ cell ∈ cells, root cell)
    (kept : Kept ledger) : Kept (ledger.releaseAll owner cells) := by
  induction cells generalizing ledger with
  | nil => exact kept
  | cons cell rest inductionHypothesis =>
      have isRoot := roots cell List.mem_cons_self
      rw [releaseAll_cons]
      apply inductionHypothesis
      · intro other later
        exact roots other (List.mem_cons_of_mem cell later)
      · exact stable.release ledger cell isRoot kept

end Releasing

end Ledger

end RejiStudio.Lib
