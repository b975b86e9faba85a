import Mathlib.Data.List.Basic
import Mathlib.Logic.Function.Basic
import RejiStudio.Lib.Machine

/-!
# Rings with one producer and one consumer

A ring of slots between two counters.  The producer claims a slot when fewer than
`capacity` elements are in the ring, fills it piece by piece and publishes it; the
consumer loads the published counter once, reads any number of slots piece by piece
and releases them together.  Every access is a step of its own.
-/

namespace RejiStudio.Lib

universe u v w

/-- How an element is written into a slot and read back, one access at a time.  The
next read may depend on what was read before; `none` says that nothing is left. -/
structure SlotCodec (Slot : Type u) (Element : Type v) (Glimpse : Type w) where
  writes : Element → List (Slot → Slot)
  blank : Glimpse
  next : Glimpse → Option (Slot → Glimpse)
  finish : Glimpse → Element

namespace SlotCodec

variable {Slot : Type u} {Element : Type v} {Glimpse : Type w}

def fill (slot : Slot) (writes : List (Slot → Slot)) : Slot :=
  writes.foldl (fun filled write => write filled) slot

@[simp]
theorem fill_append (slot : Slot) (first second : List (Slot → Slot)) :
    fill slot (first ++ second) = fill (fill slot first) second := List.foldl_append

/-- The slot holds an element, whatever it held before. -/
def Holds (codec : SlotCodec Slot Element Glimpse) (slot : Slot) (element : Element) : Prop :=
  ∃ before, slot = fill before (codec.writes element)

/-- What a consumer may have seen of a slot that does not change. -/
inductive Seen (codec : SlotCodec Slot Element Glimpse) (slot : Slot) : Glimpse → Prop where
  | blank : Seen codec slot codec.blank
  | read {glimpse look} :
      Seen codec slot glimpse → codec.next glimpse = some look → Seen codec slot (look slot)

structure Lawful (codec : SlotCodec Slot Element Glimpse) : Prop where
  readsBack : ∀ slot element glimpse, codec.Holds slot element → codec.Seen slot glimpse →
    codec.next glimpse = none → codec.finish glimpse = element

end SlotCodec

inductive RingProducer (Slot : Type u) (Element : Type v) where
  | idle
  | writing (element : Element) (left : List (Slot → Slot))

/-- `limit` is the published counter as it was loaded. -/
inductive RingConsumer (Glimpse : Type w) where
  | idle
  | draining (limit : Nat)
  | reading (limit : Nat) (glimpse : Glimpse)

/-- `current` counts the elements taken; it is released with one store.  `accepted` and
`taken` are history. -/
structure SpscRing (Slot : Type u) (Element : Type v) (Glimpse : Type w) where
  slots : Nat → Slot
  pushed : Nat
  released : Nat
  current : Nat
  producer : RingProducer Slot Element
  consumer : RingConsumer Glimpse
  accepted : List Element
  taken : List Element

inductive RingAction (Element : Type v) where
  | claim (element : Element)
  | write
  | publish
  | load
  | open_
  | read
  | take
  | release

namespace SpscRing

variable {Slot : Type u} {Element : Type v} {Glimpse : Type w}

def empty (slots : Nat → Slot) : SpscRing Slot Element Glimpse :=
  ⟨slots, 0, 0, 0, .idle, .idle, [], []⟩

/-- The machine of a ring with `slotCount` slots that admits `capacity` elements. -/
def step (codec : SlotCodec Slot Element Glimpse) (slotCount capacity : Nat) :
    Machine (SpscRing Slot Element Glimpse) (RingAction Element)
  | ring, .claim element =>
      match ring.producer with
      | .idle =>
          if ring.pushed - ring.released < capacity then
            some { ring with producer := .writing element (codec.writes element) }
          else
            none
      | .writing _ _ => none
  | ring, .write =>
      match ring.producer with
      | .writing element (write :: left) =>
          let index := ring.pushed % slotCount
          some { ring with
            slots := Function.update ring.slots index (write (ring.slots index))
            producer := .writing element left }
      | _ => none
  | ring, .publish =>
      match ring.producer with
      | .writing element [] =>
          some { ring with
            pushed := ring.pushed + 1
            producer := .idle
            accepted := ring.accepted ++ [element] }
      | _ => none
  | ring, .load =>
      match ring.consumer with
      | .idle => some { ring with consumer := .draining ring.pushed }
      | _ => none
  | ring, .open_ =>
      match ring.consumer with
      | .draining limit =>
          if ring.current < limit then
            some { ring with consumer := .reading limit codec.blank }
          else
            none
      | _ => none
  | ring, .read =>
      match ring.consumer with
      | .reading limit glimpse =>
          (codec.next glimpse).map fun look =>
            { ring with
              consumer := .reading limit (look (ring.slots (ring.current % slotCount))) }
      | _ => none
  | ring, .take =>
      match ring.consumer with
      | .reading limit glimpse =>
          if (codec.next glimpse).isNone then
            some { ring with
              current := ring.current + 1
              consumer := .draining limit
              taken := ring.taken ++ [codec.finish glimpse] }
          else
            none
      | _ => none
  | ring, .release =>
      match ring.consumer with
      | .draining _ => some { ring with released := ring.current, consumer := .idle }
      | _ => none

/-- What the producer relies on: a free slot that holds a part of its element. -/
def ProducerOk (codec : SlotCodec Slot Element Glimpse) (slotCount capacity : Nat)
    (ring : SpscRing Slot Element Glimpse) : Prop :=
  match ring.producer with
  | .idle => True
  | .writing element left =>
      ring.pushed < ring.released + capacity ∧
        ∃ before done, codec.writes element = done ++ left ∧
          ring.slots (ring.pushed % slotCount) = SlotCodec.fill before done

/-- What the consumer relies on: it stays behind the counter that it loaded, and sees
the slot as it is. -/
def ConsumerOk (codec : SlotCodec Slot Element Glimpse) (slotCount : Nat)
    (ring : SpscRing Slot Element Glimpse) : Prop :=
  match ring.consumer with
  | .idle => ring.released = ring.current
  | .draining limit => ring.current ≤ limit ∧ limit ≤ ring.pushed
  | .reading limit glimpse =>
      ring.current < limit ∧ limit ≤ ring.pushed ∧
        codec.Seen (ring.slots (ring.current % slotCount)) glimpse

structure Invariant (codec : SlotCodec Slot Element Glimpse) (slotCount capacity : Nat)
    (ring : SpscRing Slot Element Glimpse) : Prop where
  released : ring.released ≤ ring.current
  current : ring.current ≤ ring.pushed
  bounded : ring.pushed ≤ ring.released + capacity
  accepted : ring.accepted.length = ring.pushed
  taken : ring.taken = ring.accepted.take ring.current
  held : ∀ k element, ring.released ≤ k → ring.accepted[k]? = some element →
    codec.Holds (ring.slots (k % slotCount)) element
  producerOk : ProducerOk codec slotCount capacity ring
  consumerOk : ConsumerOk codec slotCount ring

variable {codec : SlotCodec Slot Element Glimpse} {slotCount capacity : Nat}
  {ring next : SpscRing Slot Element Glimpse}

theorem invariant_empty (slots : Nat → Slot) :
    Invariant codec slotCount capacity (empty slots) where
  released := Nat.le_refl _
  current := Nat.le_refl _
  bounded := Nat.zero_le _
  accepted := rfl
  taken := rfl
  held := by simp [empty]
  producerOk := trivial
  consumerOk := rfl

/-- Fewer elements than slots apart, two positions do not share a slot. -/
theorem mod_ne_of_lt {slotCount first second : Nat} (order : first < second)
    (near : second < first + slotCount) : first % slotCount ≠ second % slotCount := by
  intro same
  have zero := Nat.sub_mod_eq_zero_of_mod_eq same.symm
  rw [Nat.mod_eq_of_lt (by omega)] at zero
  omega

namespace Invariant

/-- While the producer writes, its slot holds none of the elements not yet released. -/
theorem writing_slot_free (invariant : Invariant codec slotCount capacity ring)
    (fits : capacity ≤ slotCount) {element : Element} {left : List (Slot → Slot)}
    (writing : ring.producer = .writing element left) {k : Nat} (kept : ring.released ≤ k)
    (published : k < ring.pushed) : k % slotCount ≠ ring.pushed % slotCount := by
  have producerOk := invariant.producerOk
  rw [ProducerOk, writing] at producerOk
  exact mod_ne_of_lt published (by omega)

theorem taken_prefix (invariant : Invariant codec slotCount capacity ring) :
    ring.taken <+: ring.accepted := by
  rw [invariant.taken]
  exact List.take_prefix _ _

theorem outstanding_le (invariant : Invariant codec slotCount capacity ring) :
    ring.accepted.length ≤ ring.taken.length + capacity := by
  have released := invariant.released
  have current := invariant.current
  have bounded := invariant.bounded
  rw [invariant.taken, List.length_take, invariant.accepted]
  omega

theorem claim (invariant : Invariant codec slotCount capacity ring) {element : Element}
    (stepped : step codec slotCount capacity ring (.claim element) = some next) :
    Invariant codec slotCount capacity next := by
  simp only [step] at stepped
  split at stepped
  next =>
    obtain ⟨room, equal⟩ := Option.ite_none_right_eq_some.mp stepped
    cases equal
    have current := Nat.le_trans invariant.released invariant.current
    exact { invariant with
      producerOk := ⟨by dsimp only; omega, _, [], rfl, rfl⟩
      consumerOk := invariant.consumerOk }
  next => cases stepped

/-- A write into the slot behind the published ones disturbs none of them. -/
theorem write (invariant : Invariant codec slotCount capacity ring)
    (fits : capacity ≤ slotCount)
    (stepped : step codec slotCount capacity ring .write = some next) :
    Invariant codec slotCount capacity next := by
  simp only [step] at stepped
  split at stepped
  next element write left writing =>
    have free : ∀ k, ring.released ≤ k → k < ring.pushed →
        k % slotCount ≠ ring.pushed % slotCount :=
      fun _ => invariant.writing_slot_free fits writing
    have producerOk := invariant.producerOk
    rw [ProducerOk, writing] at producerOk
    obtain ⟨room, before, done, split, filled⟩ := producerOk
    cases stepped
    refine { invariant with held := ?_, producerOk := ?_, consumerOk := ?_ }
    · intro k element kept present
      have published : k < ring.pushed := by
        rw [← invariant.accepted]
        exact (List.getElem?_eq_some_iff.mp present).1
      dsimp only
      rw [Function.update_of_ne (free k kept published)]
      exact invariant.held k element kept present
    · refine ⟨room, before, done ++ [write], by simpa using split, ?_⟩
      dsimp only
      rw [Function.update_self, SlotCodec.fill_append, ← filled]
      rfl
    · have consumerOk := invariant.consumerOk
      rw [ConsumerOk] at consumerOk ⊢
      dsimp only
      cases reading : ring.consumer with
      | idle =>
          rw [reading] at consumerOk
          exact consumerOk
      | draining limit =>
          rw [reading] at consumerOk
          exact consumerOk
      | reading limit glimpse =>
          rw [reading] at consumerOk
          obtain ⟨behind, loaded, seen⟩ := consumerOk
          refine ⟨behind, loaded, ?_⟩
          rw [Function.update_of_ne (free _ invariant.released (by omega))]
          exact seen
  next => cases stepped

theorem publish (invariant : Invariant codec slotCount capacity ring)
    (stepped : step codec slotCount capacity ring .publish = some next) :
    Invariant codec slotCount capacity next := by
  simp only [step] at stepped
  split at stepped
  next element writing =>
    have producerOk := invariant.producerOk
    rw [ProducerOk, writing] at producerOk
    obtain ⟨room, before, done, split, filled⟩ := producerOk
    cases stepped
    have current := invariant.current
    have accepted := invariant.accepted
    refine ⟨invariant.released, ?_, ?_, ?_, ?_, ?_, trivial, ?_⟩
    · exact Nat.le_succ_of_le current
    · dsimp only
      omega
    · simp [accepted]
    · dsimp only
      rw [List.take_append_of_le_length (by omega)]
      exact invariant.taken
    · intro k other kept present
      rcases Nat.lt_or_ge k ring.accepted.length with earlier | last
      · rw [List.getElem?_append_left earlier] at present
        exact invariant.held k other kept present
      · rw [List.getElem?_append_right last] at present
        obtain ⟨here, rfl⟩ := List.getElem?_eq_some_iff.mp present
        have position : k = ring.pushed := by
          simp only [List.length_singleton] at here
          omega
        subst position
        refine ⟨before, ?_⟩
        simpa [split] using filled
    · have consumerOk := invariant.consumerOk
      rw [ConsumerOk] at consumerOk ⊢
      cases reading : ring.consumer with
      | idle =>
          rw [reading] at consumerOk
          exact consumerOk
      | draining limit =>
          rw [reading] at consumerOk
          exact ⟨consumerOk.1, Nat.le_succ_of_le consumerOk.2⟩
      | reading limit glimpse =>
          rw [reading] at consumerOk
          exact ⟨consumerOk.1, Nat.le_succ_of_le consumerOk.2.1, consumerOk.2.2⟩
  next => cases stepped

theorem load (invariant : Invariant codec slotCount capacity ring)
    (stepped : step codec slotCount capacity ring .load = some next) :
    Invariant codec slotCount capacity next := by
  simp only [step] at stepped
  split at stepped
  next =>
    cases stepped
    exact { invariant with
      producerOk := invariant.producerOk, consumerOk := ⟨invariant.current, Nat.le_refl _⟩ }
  next => cases stepped

theorem open_ (invariant : Invariant codec slotCount capacity ring)
    (stepped : step codec slotCount capacity ring .open_ = some next) :
    Invariant codec slotCount capacity next := by
  simp only [step] at stepped
  split at stepped
  next limit draining =>
    have consumerOk := invariant.consumerOk
    rw [ConsumerOk, draining] at consumerOk
    obtain ⟨behind, equal⟩ := Option.ite_none_right_eq_some.mp stepped
    cases equal
    exact { invariant with
      producerOk := invariant.producerOk, consumerOk := ⟨behind, consumerOk.2, .blank⟩ }
  next => cases stepped

theorem read (invariant : Invariant codec slotCount capacity ring)
    (stepped : step codec slotCount capacity ring .read = some next) :
    Invariant codec slotCount capacity next := by
  simp only [step] at stepped
  split at stepped
  next limit glimpse reading =>
    have consumerOk := invariant.consumerOk
    rw [ConsumerOk, reading] at consumerOk
    obtain ⟨look, nextLook, equal⟩ := Option.map_eq_some_iff.mp stepped
    cases equal
    exact { invariant with
      producerOk := invariant.producerOk
      consumerOk := ⟨consumerOk.1, consumerOk.2.1, consumerOk.2.2.read nextLook⟩ }
  next => cases stepped

theorem take (invariant : Invariant codec slotCount capacity ring) (lawful : codec.Lawful)
    (stepped : step codec slotCount capacity ring .take = some next) :
    Invariant codec slotCount capacity next := by
  simp only [step] at stepped
  split at stepped
  next limit glimpse reading =>
    have consumerOk := invariant.consumerOk
    rw [ConsumerOk, reading] at consumerOk
    obtain ⟨behind, loaded, seen⟩ := consumerOk
    obtain ⟨complete, equal⟩ := Option.ite_none_right_eq_some.mp stepped
    cases equal
    have inside : ring.current < ring.accepted.length := by
      rw [invariant.accepted]
      omega
    have present := List.getElem?_eq_getElem inside
    have read : codec.finish glimpse = ring.accepted[ring.current] :=
      lawful.readsBack _ _ _ (invariant.held _ _ invariant.released present) seen
        (Option.isNone_iff_eq_none.mp complete)
    refine { invariant with
      released := Nat.le_succ_of_le invariant.released
      current := by dsimp only; omega
      taken := ?_
      producerOk := invariant.producerOk
      consumerOk := ⟨behind, loaded⟩ }
    dsimp only
    rw [read, invariant.taken, List.take_append_getElem]
  next => cases stepped

theorem release (invariant : Invariant codec slotCount capacity ring)
    (stepped : step codec slotCount capacity ring .release = some next) :
    Invariant codec slotCount capacity next := by
  simp only [step] at stepped
  split at stepped
  next limit draining =>
    cases stepped
    have released := invariant.released
    have bounded := invariant.bounded
    refine ⟨Nat.le_refl _, invariant.current, ?_, invariant.accepted, invariant.taken, ?_, ?_,
      rfl⟩
    · dsimp only
      omega
    · intro k element kept present
      exact invariant.held k element (Nat.le_trans released kept) present
    · have producerOk := invariant.producerOk
      rw [ProducerOk] at producerOk ⊢
      cases writing : ring.producer with
      | idle => trivial
      | writing element left =>
          rw [writing] at producerOk
          exact ⟨by dsimp only; omega, producerOk.2⟩
  next => cases stepped

end Invariant

theorem step_invariant (lawful : codec.Lawful) (fits : capacity ≤ slotCount)
    {action : RingAction Element} (invariant : Invariant codec slotCount capacity ring)
    (stepped : step codec slotCount capacity ring action = some next) :
    Invariant codec slotCount capacity next := by
  cases action with
  | claim element => exact invariant.claim stepped
  | write => exact invariant.write fits stepped
  | publish => exact invariant.publish stepped
  | load => exact invariant.load stepped
  | open_ => exact invariant.open_ stepped
  | read => exact invariant.read stepped
  | take => exact invariant.take lawful stepped
  | release => exact invariant.release stepped

/-! ## Simulating a ring -/

def Reaches (codec : SlotCodec Slot Element Glimpse) (slotCount capacity : Nat)
    (ring : SpscRing Slot Element Glimpse) (Target : SpscRing Slot Element Glimpse → Prop) :
    Prop :=
  ∃ actions next, Machine.exec (step codec slotCount capacity) ring actions = some next ∧
    Target next

theorem Reaches.here {Target : SpscRing Slot Element Glimpse → Prop} (holds : Target ring) :
    Reaches codec slotCount capacity ring Target :=
  ⟨[], ring, rfl, holds⟩

/-- Whoever simulates a ring step by step may use the invariant of the state reached. -/
theorem Reaches.by_exec {Target : SpscRing Slot Element Glimpse → Prop}
    {actions : List (RingAction Element)} (lawful : codec.Lawful) (fits : capacity ≤ slotCount)
    (invariant : Invariant codec slotCount capacity ring)
    (executed : Machine.exec (step codec slotCount capacity) ring actions = some next)
    (holds : Invariant codec slotCount capacity next → Target next) :
    Reaches codec slotCount capacity ring Target := by
  refine ⟨actions, next, executed, holds ?_⟩
  exact Machine.exec_invariant
    (fun _ _ _ invariant stepped => step_invariant lawful fits invariant stepped)
    invariant executed

theorem Reaches.by_step {Target : SpscRing Slot Element Glimpse → Prop}
    {action : RingAction Element} (lawful : codec.Lawful) (fits : capacity ≤ slotCount)
    (invariant : Invariant codec slotCount capacity ring)
    (stepped : step codec slotCount capacity ring action = some next)
    (holds : Invariant codec slotCount capacity next → Target next) :
    Reaches codec slotCount capacity ring Target :=
  by_exec lawful fits invariant
    (show Machine.exec (step codec slotCount capacity) ring [action] = some next by simp [stepped])
    holds

end SpscRing

end RejiStudio.Lib
