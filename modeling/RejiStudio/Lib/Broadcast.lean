import Mathlib.Tactic.Common

/-!
# Broadcast channels with one subscriber

A sender never waits.  When the subscriber is a whole capacity behind, the oldest
message is overwritten, and the next receive reports the lag before it delivers
again.
-/

namespace RejiStudio.Lib

universe u v

structure Broadcast (Message : Type u) (capacity : Nat) where
  unread : List Message
  lagged : Bool
  deriving DecidableEq

namespace Broadcast

variable {Message : Type u} {capacity : Nat}

def empty : Broadcast Message capacity := ⟨[], false⟩

def send (channel : Broadcast Message capacity) (message : Message) :
    Broadcast Message capacity :=
  if channel.unread.length < capacity then
    { channel with unread := channel.unread ++ [message] }
  else
    ⟨channel.unread.tail ++ [message], true⟩

def sendAll (channel : Broadcast Message capacity) (messages : List Message) :
    Broadcast Message capacity :=
  messages.foldl send channel

theorem sendAll_append (channel : Broadcast Message capacity) (first second : List Message) :
    channel.sendAll (first ++ second) = (channel.sendAll first).sendAll second :=
  List.foldl_append

/-- The channel may lose the oldest message; it never changes the order. -/
theorem unread_send_sublist (channel : Broadcast Message capacity) (message : Message) :
    (channel.send message).unread.Sublist (channel.unread ++ [message]) := by
  unfold send
  split
  · exact List.Sublist.refl _
  · exact (List.tail_sublist _).append (List.Sublist.refl _)

def overwritten (channel : Broadcast Message capacity) : List Message :=
  if channel.unread.length < capacity then [] else channel.unread.head?.toList

theorem overwritten_append_send (channel : Broadcast Message capacity) (message : Message) :
    channel.overwritten ++ (channel.send message).unread = channel.unread ++ [message] := by
  unfold overwritten send
  split
  · rfl
  · cases channel.unread with
    | nil => rfl
    | cons head rest => rfl

theorem mem_unread_send {channel : Broadcast Message capacity} {message member : Message}
    (membership : member ∈ (channel.send message).unread) :
    member ∈ channel.unread ∨ member = message := by
  rcases List.mem_append.mp ((channel.unread_send_sublist message).subset membership) with
    old | new
  · exact .inl old
  · exact .inr (List.mem_singleton.mp new)

theorem mem_unread_sendAll {channel : Broadcast Message capacity} {messages : List Message}
    {member : Message} (membership : member ∈ (channel.sendAll messages).unread) :
    member ∈ channel.unread ∨ member ∈ messages := by
  induction messages generalizing channel with
  | nil => exact .inl membership
  | cons message rest inductionHypothesis =>
      rcases inductionHypothesis membership with sent | later
      · rcases mem_unread_send sent with old | rfl
        · exact .inl old
        · exact .inr List.mem_cons_self
      · exact .inr (List.mem_cons_of_mem message later)

theorem lagged_sendAll_of_lagged {channel : Broadcast Message capacity}
    (lagged : channel.lagged = true) (messages : List Message) :
    (channel.sendAll messages).lagged = true := by
  induction messages generalizing channel with
  | nil => exact lagged
  | cons message rest inductionHypothesis =>
      apply inductionHypothesis
      unfold send
      split
      · exact lagged
      · rfl

/-- A burst that does not fit beside the unread messages leaves the subscriber behind. -/
theorem lagged_sendAll_of_burst {channel : Broadcast Message capacity} {messages : List Message}
    (burst : capacity < channel.unread.length + messages.length)
    (bounded : channel.unread.length ≤ capacity) :
    (channel.sendAll messages).lagged = true := by
  induction messages generalizing channel with
  | nil =>
      rw [List.length_nil] at burst
      omega
  | cons message rest inductionHypothesis =>
      by_cases room : channel.unread.length < capacity
      · have sent : channel.send message =
            { channel with unread := channel.unread ++ [message] } := if_pos room
        change ((channel.send message).sendAll rest).lagged = true
        rw [sent]
        apply inductionHypothesis
        · rw [List.length_append, List.length_singleton]
          rw [List.length_cons] at burst
          omega
        · rw [List.length_append, List.length_singleton]
          exact room
      · have sent : channel.send message = ⟨channel.unread.tail ++ [message], true⟩ :=
          if_neg room
        change ((channel.send message).sendAll rest).lagged = true
        rw [sent]
        exact lagged_sendAll_of_lagged rfl rest

/-- What a receive finds: nothing yet, a report of messages lost, or the oldest
unread message. -/
inductive Received (Message : Type u) where
  | empty
  | lagged
  | message (message : Message)
  deriving DecidableEq

def recv (channel : Broadcast Message capacity) :
    Broadcast Message capacity × Received Message :=
  if channel.lagged then
    ({ channel with lagged := false }, .lagged)
  else
    match channel.unread with
    | [] => (channel, .empty)
    | message :: rest => ({ channel with unread := rest }, .message message)

theorem unread_recv_sublist (channel : Broadcast Message capacity) :
    channel.recv.1.unread.Sublist channel.unread := by
  unfold recv
  split
  · exact List.Sublist.refl _
  · split
    next => exact List.Sublist.refl _
    next message rest unread =>
      rw [unread]
      exact List.sublist_cons_self _ _

theorem mem_unread_of_recv {channel : Broadcast Message capacity} {message : Message}
    (received : channel.recv.2 = .message message) :
    channel.unread = message :: channel.recv.1.unread ∧ channel.lagged = false := by
  unfold recv at received ⊢
  split at received
  next => cases received
  next current =>
    split at received
    next => cases received
    next head rest unread =>
      cases received
      exact ⟨by simp [current, unread], Bool.eq_false_iff.mpr current⟩

theorem lagged_of_recv {channel : Broadcast Message capacity}
    (received : channel.recv.2 = .lagged) : channel.lagged = true := by
  unfold recv at received
  split at received
  next behind => exact behind
  next =>
    split at received
    next => cases received
    next => cases received

def map {Other : Type v} (f : Message → Other) (channel : Broadcast Message capacity) :
    Broadcast Other capacity :=
  ⟨channel.unread.map f, channel.lagged⟩

def Received.map {Other : Type v} (f : Message → Other) : Received Message → Received Other
  | .empty => .empty
  | .lagged => .lagged
  | .message item => .message (f item)

theorem map_send {Other : Type v} (f : Message → Other) (channel : Broadcast Message capacity)
    (message : Message) : (channel.send message).map f = (channel.map f).send (f message) := by
  unfold send map
  rw [List.length_map]
  split <;> simp

theorem map_recv {Other : Type v} (f : Message → Other) (channel : Broadcast Message capacity) :
    (channel.map f).recv = (channel.recv.1.map f, channel.recv.2.map f) := by
  obtain ⟨unread, lagged⟩ := channel
  cases lagged with
  | true => rfl
  | false =>
      cases unread with
      | nil => rfl
      | cons message rest => rfl

end Broadcast

end RejiStudio.Lib
