import Mathlib.Data.List.Basic
import Mathlib.Tactic.Common

/-!
# Handing one buffer to and fro

A writer and a reader share one buffer, and whose turn it is stands in a lock.  A party that
keeps to its turn passes the buffer on when it is done; a writer that cannot pass it on keeps
it.  As long as both keep to their turns, the reader gets every item once and in order.
-/

namespace RejiStudio.Lib

universe u

inductive Turn where
  | writer
  | reader
  | kept
  deriving DecidableEq

/-- The lock and the buffer.  What was written and what was read is history. -/
structure HandOver (Item : Type u) where
  turn : Turn
  content : Option Item
  written : List Item
  read : List (Option Item)

namespace HandOver

variable {Item : Type u}

def start : HandOver Item := ⟨.writer, none, [], []⟩

def put (handOver : HandOver Item) (item : Item) : HandOver Item :=
  { handOver with content := some item, written := handOver.written ++ [item] }

def look (handOver : HandOver Item) : HandOver Item :=
  { handOver with read := handOver.read ++ [handOver.content] }

def write (handOver : HandOver Item) (item : Item) (passes : Bool) : Option (HandOver Item) :=
  if handOver.turn = .writer then
    some { handOver.put item with turn := if passes then .reader else .kept }
  else none

def fetch (handOver : HandOver Item) : Option (HandOver Item) :=
  if handOver.turn = .reader then some { handOver.look with turn := .writer } else none

def pending (handOver : HandOver Item) : List (Option Item) :=
  if handOver.turn = .writer then [] else [handOver.content]

/-- The reader has got everything that was written, apart from what is pending. -/
def InTurn (handOver : HandOver Item) : Prop :=
  handOver.written.map some = handOver.read ++ handOver.pending

variable {handOver next : HandOver Item}

theorem inTurn_start : (start : HandOver Item).InTurn := rfl

theorem InTurn.write {item : Item} {passes : Bool} (inTurn : handOver.InTurn)
    (wrote : handOver.write item passes = some next) : next.InTurn := by
  rw [HandOver.write, Option.ite_none_right_eq_some, Option.some.injEq] at wrote
  obtain ⟨turn, rfl⟩ := wrote
  rw [InTurn, pending, if_pos turn, List.append_nil] at inTurn
  change (handOver.written ++ [item]).map some = handOver.read ++ _
  rw [List.map_append, inTurn]
  cases passes with
  | false => rfl
  | true => rfl

theorem InTurn.fetch (inTurn : handOver.InTurn) (fetched : handOver.fetch = some next) :
    next.InTurn := by
  rw [HandOver.fetch, Option.ite_none_right_eq_some, Option.some.injEq] at fetched
  obtain ⟨turn, rfl⟩ := fetched
  have waiting : handOver.pending = [handOver.content] := by
    rw [pending, turn]
    rfl
  rw [InTurn, waiting] at inTurn
  exact inTurn.trans (List.append_nil _).symm

theorem InTurn.length_written_le (inTurn : handOver.InTurn) :
    handOver.written.length ≤ handOver.read.length + 1 := by
  have lengths := congrArg List.length inTurn
  rw [List.length_map, List.length_append] at lengths
  have short : handOver.pending.length ≤ 1 := by
    unfold pending
    split
    · exact Nat.zero_le 1
    · exact Nat.le_refl 1
  omega

end HandOver

end RejiStudio.Lib
