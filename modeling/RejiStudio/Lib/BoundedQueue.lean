import Mathlib.Tactic.Common

/-!
# Bounded queues

A first-in first-out queue that holds at most `capacity` elements.  `push`
refuses when the queue is full, `forcePush` drops the oldest element instead.
-/

namespace RejiStudio.Lib

universe u

structure BoundedQueue (Element : Type u) (capacity : Nat) where
  items : List Element
  bounded : items.length ≤ capacity
  deriving DecidableEq

namespace BoundedQueue

variable {Element : Type u} {capacity : Nat}

def empty : BoundedQueue Element capacity := ⟨[], Nat.zero_le _⟩

/-- Append an element, or `none` when the queue is full. -/
def push (queue : BoundedQueue Element capacity) (element : Element) :
    Option (BoundedQueue Element capacity) :=
  if room : queue.items.length < capacity then
    some ⟨queue.items ++ [element], by simpa [Nat.succ_le_iff] using room⟩
  else
    none

theorem push_eq_some_iff {queue next : BoundedQueue Element capacity} {element : Element} :
    queue.push element = some next ↔
      queue.items.length < capacity ∧ next.items = queue.items ++ [element] := by
  obtain ⟨items, bounded⟩ := next
  unfold push
  split
  next room => simp [room, eq_comm]
  next full => simp [full]

theorem push_eq_none_iff {queue : BoundedQueue Element capacity} {element : Element} :
    queue.push element = none ↔ queue.items.length = capacity := by
  unfold push
  have bounded := queue.bounded
  split <;> simp <;> omega

def pop (queue : BoundedQueue Element capacity) :
    Option (Element × BoundedQueue Element capacity) :=
  match queue with
  | ⟨[], _⟩ => none
  | ⟨element :: rest, bounded⟩ => some (element, ⟨rest, Nat.le_of_succ_le bounded⟩)

theorem pop_eq_some_iff {queue next : BoundedQueue Element capacity} {element : Element} :
    queue.pop = some (element, next) ↔ queue.items = element :: next.items := by
  obtain ⟨items, bounded⟩ := queue
  obtain ⟨rest, restBounded⟩ := next
  cases items with
  | nil => simp [pop]
  | cons head tail => simp [pop]

/-- Give the oldest `count` slots free. -/
def drop (queue : BoundedQueue Element capacity) (count : Nat) :
    BoundedQueue Element capacity :=
  ⟨queue.items.drop count, by
    rw [List.length_drop]
    exact Nat.le_trans (Nat.sub_le _ _) queue.bounded⟩

@[simp]
theorem items_drop (queue : BoundedQueue Element capacity) (count : Nat) :
    (queue.drop count).items = queue.items.drop count := rfl

/-- A push that gives up when the queue is full adds at most the element. -/
theorem mem_push_getD {queue : BoundedQueue Element capacity} {element member : Element}
    (membership : member ∈ ((queue.push element).getD queue).items) :
    member ∈ queue.items ∨ member = element := by
  cases pushed : queue.push element with
  | none =>
      rw [pushed] at membership
      exact Or.inl membership
  | some next =>
      rw [pushed, Option.getD_some, (push_eq_some_iff.mp pushed).2] at membership
      simpa using membership

/-- Append an element; when the queue is full its oldest element is evicted and
returned. -/
def forcePush (queue : BoundedQueue Element capacity) (element : Element) :
    BoundedQueue Element capacity × Option Element :=
  match queue.push element with
  | some next => (next, none)
  | none =>
      match queue with
      | ⟨[], bounded⟩ => (⟨[], bounded⟩, some element)
      | ⟨oldest :: rest, bounded⟩ =>
          (⟨rest ++ [element], by simpa using bounded⟩, some oldest)

theorem forcePush_items {queue : BoundedQueue Element capacity} {element : Element}
    (positive : 0 < capacity) :
    (queue.forcePush element).1.items =
      (if queue.items.length < capacity then queue.items else queue.items.tail) ++ [element] := by
  unfold forcePush
  cases pushed : queue.push element with
  | some next =>
      obtain ⟨room, items⟩ := push_eq_some_iff.mp pushed
      rw [if_pos room]
      exact items
  | none =>
      have full := push_eq_none_iff.mp pushed
      rw [if_neg (Nat.not_lt.mpr (Nat.le_of_eq full.symm))]
      obtain ⟨_ | ⟨oldest, rest⟩, bounded⟩ := queue
      · exact absurd full (Nat.ne_of_lt positive)
      · rfl

end BoundedQueue

end RejiStudio.Lib
