import Mathlib.Data.List.MinMax
import RejiStudio.Lib.Broadcast

/-!
# Numbered records on their way through a channel

A producer turns each record into messages and sends them one by one; the subscriber
takes up what it receives or discards it.  Messages may be lost and are never
reordered, so the message taken up last belongs to the most recent record.
-/

namespace RejiStudio.Lib

universe u v

/-- `taken` is history: the messages taken up, the oldest first. -/
structure Feed (Message : Type u) (capacity : Nat) where
  pending : List Message
  channel : Broadcast Message capacity
  taken : List Message

namespace Feed

variable {Message : Type u} {Record : Type v} {capacity : Nat}

def empty : Feed Message capacity := ⟨[], .empty, []⟩

def load (feed : Feed Message capacity) (messages : List Message) : Feed Message capacity :=
  { feed with pending := feed.pending ++ messages }

def send (feed : Feed Message capacity) : Option (Feed Message capacity) :=
  match feed.pending with
  | [] => none
  | message :: rest =>
      some { feed with pending := rest, channel := feed.channel.send message }

def post (feed : Feed Message capacity) (message : Message) : Feed Message capacity :=
  { feed with channel := feed.channel.send message }

def receive (feed : Feed Message capacity) (takes : Bool) :
    Option (Feed Message capacity × Option Message) :=
  match feed.channel.recv with
  | (_, .empty) => none
  | (channel, .lagged) => some ({ feed with channel := channel }, none)
  | (channel, .message message) =>
      some ({ feed with
        channel := channel
        taken := if takes then feed.taken ++ [message] else feed.taken }, some message)

/-- The messages taken up and those on their way, in the order of their records. -/
def trace (feed : Feed Message capacity) : List Message :=
  feed.taken ++ feed.channel.unread ++ feed.pending

/-! ## The order of the records -/

theorem trace_load (feed : Feed Message capacity) (messages : List Message) :
    (feed.load messages).trace = feed.trace ++ messages := by
  simp [trace, load]

theorem trace_send {feed next : Feed Message capacity} (sent : feed.send = some next) :
    next.trace.Sublist feed.trace := by
  unfold send at sent
  split at sent
  next => cases sent
  next message rest pending =>
    cases sent
    have kept := (feed.channel.unread_send_sublist message).append (List.Sublist.refl rest)
    simp only [trace, pending, List.append_assoc] at kept ⊢
    exact (List.Sublist.refl _).append kept

theorem trace_receive {feed next : Feed Message capacity} {takes : Bool}
    {received : Option Message} (receives : feed.receive takes = some (next, received)) :
    next.trace.Sublist feed.trace := by
  unfold receive at receives
  split at receives
  next => cases receives
  next channel lagged =>
    cases receives
    have same : channel.unread.Sublist feed.channel.unread := by
      have kept := feed.channel.unread_recv_sublist
      rw [lagged] at kept
      exact kept
    exact ((List.Sublist.refl _).append same).append (List.Sublist.refl _)
  next channel message received =>
    cases receives
    have unread : feed.channel.unread = message :: channel.unread := by
      have first := (Broadcast.mem_unread_of_recv (congrArg Prod.snd received)).1
      rw [received] at first
      exact first
    simp only [trace, unread]
    split
    · simp
    · exact (((List.Sublist.refl _).append (List.sublist_cons_self _ _)).append
        (List.Sublist.refl _))

theorem taken_send {feed next : Feed Message capacity} (sent : feed.send = some next) :
    next.taken = feed.taken := by
  unfold send at sent
  split at sent
  next => cases sent
  next =>
    cases sent
    rfl

theorem mem_trace_post {feed : Feed Message capacity} {message member : Message}
    (membership : member ∈ (feed.post message).trace) :
    member ∈ feed.trace ∨ member = message := by
  simp only [trace, post, List.mem_append] at membership ⊢
  rcases membership with (taken | unread) | pending
  · exact .inl (.inl (.inl taken))
  · rcases Broadcast.mem_unread_send unread with old | new
    · exact .inl (.inl (.inr old))
    · exact .inr new
  · exact .inl (.inr pending)

theorem receive_none {feed next : Feed Message capacity} {takes : Bool}
    (receives : feed.receive takes = some (next, none)) : next.taken = feed.taken := by
  unfold receive at receives
  split at receives
  next => cases receives
  next =>
    cases receives
    rfl
  next => cases receives

theorem receive_some {feed next : Feed Message capacity} {takes : Bool} {message : Message}
    (receives : feed.receive takes = some (next, some message)) :
    message ∈ feed.trace ∧
      next.taken = if takes then feed.taken ++ [message] else feed.taken := by
  unfold receive at receives
  split at receives
  next => cases receives
  next => cases receives
  next channel first received =>
    cases receives
    have unread := (Broadcast.mem_unread_of_recv (congrArg Prod.snd received)).1
    refine ⟨?_, rfl⟩
    apply List.mem_append_left
    apply List.mem_append_right
    rw [unread]
    exact List.mem_cons_self

section

variable (select : Message → Option Record) (number : Record → Nat)

/-- The records of the messages that `select` looks for have rising numbers below a
bound. -/
structure Rising (feed : Feed Message capacity) (bound : Nat) : Prop where
  pairwise : (feed.trace.filterMap select).Pairwise (number · < number ·)
  below : ∀ record ∈ feed.trace.filterMap select, number record < bound

def latest (feed : Feed Message capacity) : Option Record :=
  (feed.taken.filterMap select).argmax number

variable {select number}

theorem Rising.sublist {feed next : Feed Message capacity} {bound : Nat}
    (rising : feed.Rising select number bound)
    (kept : (next.trace.filterMap select).Sublist (feed.trace.filterMap select)) :
    next.Rising select number bound where
  pairwise := rising.pairwise.sublist kept
  below := fun record member => rising.below record (kept.subset member)

theorem Rising.post {feed : Feed Message capacity} {bound : Nat} {message : Message}
    (rising : feed.Rising select number bound) (other : select message = none) :
    (feed.post message).Rising select number bound := by
  apply rising.sublist
  have kept := (feed.channel.unread_send_sublist message).filterMap select
  simp only [List.filterMap_append, List.filterMap_cons, other, List.filterMap_nil,
    List.append_nil] at kept
  simp only [trace, Feed.post, List.filterMap_append]
  exact ((List.Sublist.refl _).append kept).append (List.Sublist.refl _)

theorem Rising.load {feed : Feed Message capacity} {bound : Nat} {messages : List Message}
    (rising : feed.Rising select number bound)
    (loaded : messages.filterMap select = [] ∨
      ∃ record, messages.filterMap select = [record] ∧ number record = bound) :
    (feed.load messages).Rising select number (bound + 1) := by
  rcases loaded with none | ⟨record, one, next⟩
  · refine ⟨?_, ?_⟩
    · rw [trace_load, List.filterMap_append, none, List.append_nil]
      exact rising.pairwise
    · intro member membership
      rw [trace_load, List.filterMap_append, none, List.append_nil] at membership
      exact Nat.lt_succ_of_lt (rising.below member membership)
  · refine ⟨?_, ?_⟩
    · rw [trace_load, List.filterMap_append, one, List.pairwise_append]
      refine ⟨rising.pairwise, List.pairwise_singleton _ _, ?_⟩
      intro earlier member later membership
      rw [List.mem_singleton.mp membership, next]
      exact rising.below earlier member
    · intro member membership
      rw [trace_load, List.filterMap_append, one] at membership
      rcases List.mem_append.mp membership with old | new
      · exact Nat.lt_succ_of_lt (rising.below member old)
      · rw [List.mem_singleton.mp new, next]
        exact Nat.lt_succ_self bound

/-- In a list with rising numbers the last record is the most recent one. -/
theorem argmax_of_pairwise {records : List Record}
    (rising : records.Pairwise (number · < number ·)) :
    records.argmax number = records.getLast? := by
  induction records using List.reverseRecOn with
  | nil => rfl
  | append_singleton earlier last inductionHypothesis =>
      rw [List.argmax_concat, List.getLast?_concat]
      cases found : earlier.argmax number with
      | none => rfl
      | some record =>
          have member := List.argmax_mem found
          have before := (List.pairwise_append.mp rising).2.2 record member last
            (List.mem_singleton_self last)
          simp only [before, if_true]

theorem Rising.latest {feed : Feed Message capacity} {bound : Nat}
    (rising : feed.Rising select number bound) :
    feed.latest select number = (feed.taken.filterMap select).getLast? := by
  apply argmax_of_pairwise
  have prior : feed.taken.Sublist feed.trace := by
    rw [trace, List.append_assoc]
    exact List.sublist_append_left _ _
  exact rising.pairwise.sublist (prior.filterMap select)

end

end Feed

end RejiStudio.Lib
