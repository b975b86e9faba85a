import Mathlib.Algebra.Order.Ring.Int
import Mathlib.Tactic.Common

/-!
# Messages over a connection that may break

A link takes a number of symbols and then breaks in the middle of a write.  A sender puts a
message on it as several pieces; a reader takes one piece with each call and gives a message
out with the last of them.  What is read from the wire is then exactly what the sender was
told had gone out, wherever the link broke.
-/

namespace RejiStudio.Lib

universe u v w

/-- One direction of a connection that takes `room` more symbols. -/
structure Link (Symbol : Type u) where
  wire : List Symbol
  room : Nat
  isOpen : Bool
  deriving DecidableEq

namespace Link

variable {Symbol : Type u} {link next : Link Symbol} {pieces : List (List Symbol)}

/-- A write that does not fit leaves its beginning on the wire and closes the link. -/
def push (link : Link Symbol) (piece : List Symbol) : Bool × Link Symbol :=
  if link.isOpen = false then
    (false, link)
  else if piece.length ≤ link.room then
    (true, { link with wire := link.wire ++ piece, room := link.room - piece.length })
  else
    (false, { wire := link.wire ++ piece.take link.room, room := 0, isOpen := false })

def pushAll (link : Link Symbol) : List (List Symbol) → Bool × Link Symbol
  | [] => (true, link)
  | piece :: rest =>
      match link.push piece with
      | (true, next) => next.pushAll rest
      | (false, next) => (false, next)

theorem push_closed (closed : link.isOpen = false) (piece : List Symbol) :
    link.push piece = (false, link) := by
  rw [push, if_pos closed]

theorem push_true {piece : List Symbol} (pushed : link.push piece = (true, next)) :
    next.wire = link.wire ++ piece ∧ next.isOpen = true := by
  rw [push] at pushed
  split at pushed
  · simp at pushed
  · rename_i stillOpen
    split at pushed
    · cases pushed
      exact ⟨rfl, by simpa using stillOpen⟩
    · simp at pushed

theorem push_false {piece : List Symbol} (wasOpen : link.isOpen = true)
    (pushed : link.push piece = (false, next)) :
    next.wire = link.wire ++ piece.take link.room ∧ link.room < piece.length ∧
      next.isOpen = false := by
  rw [push, if_neg (by simp [wasOpen])] at pushed
  split at pushed
  · simp at pushed
  · rename_i full
    cases pushed
    exact ⟨rfl, by omega, rfl⟩

theorem pushAll_true (wasOpen : link.isOpen = true) (pushed : link.pushAll pieces = (true, next)) :
    next.wire = link.wire ++ pieces.flatten ∧ next.isOpen = true := by
  induction pieces generalizing link with
  | nil =>
      cases pushed
      exact ⟨by simp, wasOpen⟩
  | cons piece rest inductionHypothesis =>
      rw [pushAll] at pushed
      cases first : link.push piece with
      | mk ok middle =>
          rw [first] at pushed
          cases ok with
          | false => simp at pushed
          | true =>
              obtain ⟨wire, stillOpen⟩ := push_true first
              obtain ⟨written, finallyOpen⟩ := inductionHypothesis stillOpen pushed
              refine ⟨?_, finallyOpen⟩
              rw [written, wire, List.flatten_cons, List.append_assoc]

theorem pushAll_false (wasOpen : link.isOpen = true)
    (pushed : link.pushAll pieces = (false, next)) :
    ∃ before piece after count, pieces = before ++ piece :: after ∧ count < piece.length ∧
      next.wire = link.wire ++ before.flatten ++ piece.take count ∧ next.isOpen = false := by
  induction pieces generalizing link with
  | nil => simp [pushAll] at pushed
  | cons piece rest inductionHypothesis =>
      rw [pushAll] at pushed
      cases first : link.push piece with
      | mk ok middle =>
          rw [first] at pushed
          cases ok with
          | false =>
              cases pushed
              obtain ⟨wire, short, closed⟩ := push_false wasOpen first
              exact ⟨[], piece, rest, link.room, rfl, short, by simp [wire], closed⟩
          | true =>
              obtain ⟨wire, stillOpen⟩ := push_true first
              obtain ⟨before, broken, after, count, split, short, written, closed⟩ :=
                inductionHypothesis stillOpen pushed
              refine ⟨piece :: before, broken, after, count, by rw [split, List.cons_append],
                short, ?_, closed⟩
              rw [written, wire, List.flatten_cons, List.append_assoc link.wire]

theorem pushAll_closed (closed : link.isOpen = false) (some_ : pieces ≠ []) :
    link.pushAll pieces = (false, link) := by
  cases pieces with
  | nil => exact absurd rfl some_
  | cons piece rest => rw [pushAll, push_closed closed]

end Link

/-! ## The reader -/

section Reader

variable {Symbol : Type u} {Reader : Type v} {Message : Type w}
variable (read : Reader → List Symbol → Option (Reader × List Message × List Symbol))

/-- Call the reader until it fails; `fuel` bounds the calls. -/
def drain : Nat → Reader → List Symbol → List Message
  | 0, _, _ => []
  | fuel + 1, reader, symbols =>
      match read reader symbols with
      | none => []
      | some (next, messages, rest) => messages ++ drain fuel next rest

/-- What is behind the symbols that a call takes makes no difference to it. -/
def ReadsLocally : Prop :=
  ∀ reader symbols next messages rest more,
    read reader symbols = some (next, messages, rest) →
      read reader (symbols ++ more) = some (next, messages, rest ++ more)

def Takes (reader : Reader) (piece : List Symbol) (messages : List Message) (next : Reader) :
    Prop :=
  ∀ rest, read reader (piece ++ rest) = some (next, messages, rest)

/-- The reader takes the pieces one by one and gives the message out with the last. -/
inductive Carries : Reader → List (List Symbol) → Message → Reader → Prop where
  | last {reader piece message next} :
      Takes read reader piece [message] next → Carries reader [piece] message next
  | more {reader piece next rest message last} :
      Takes read reader piece [] next → Carries next rest message last →
      Carries reader (piece :: rest) message last

variable {read}

theorem length_le_length_flatten {pieces : List (List Symbol)}
    (some_ : ∀ piece ∈ pieces, piece ≠ []) : pieces.length ≤ pieces.flatten.length := by
  induction pieces with
  | nil => simp
  | cons piece rest inductionHypothesis =>
      have first := List.length_pos_iff.mpr (some_ piece List.mem_cons_self)
      have later := inductionHypothesis
        (fun other member => some_ other (List.mem_cons_of_mem _ member))
      simp only [List.length_cons, List.flatten_cons, List.length_append]
      omega

theorem Takes.unique {reader next other : Reader} {piece : List Symbol}
    {messages given : List Message} (first : Takes read reader piece messages next)
    (second : Takes read reader piece given other) : messages = given ∧ next = other := by
  have same := (first []).symm.trans (second [])
  simp only [Option.some.injEq, Prod.mk.injEq] at same
  exact ⟨same.2.1, same.1⟩

theorem Takes.short {reader next : Reader} {piece : List Symbol} {messages : List Message}
    (locally : ReadsLocally read) (takes : Takes read reader piece messages next) {count : Nat}
    (short : count < piece.length) : read reader (piece.take count) = none := by
  cases result : read reader (piece.take count) with
  | none => rfl
  | some outcome =>
      obtain ⟨other, given, rest⟩ := outcome
      have extended := locally _ _ _ _ _ (piece.drop count) result
      have whole := takes []
      rw [List.append_nil] at whole
      rw [List.take_append_drop, whole] at extended
      simp only [Option.some.injEq, Prod.mk.injEq] at extended
      have empty := congrArg List.length extended.2.2
      simp only [List.length_nil, List.length_append, List.length_drop] at empty
      omega

theorem Carries.drain_eq {reader next : Reader} {pieces : List (List Symbol)} {message : Message}
    (carries : Carries read reader pieces message next) {fuel : Nat}
    (enough : pieces.length ≤ fuel) (rest : List Symbol) :
    drain read fuel reader (pieces.flatten ++ rest) =
      message :: drain read (fuel - pieces.length) next rest := by
  induction carries generalizing fuel with
  | @last reader piece message next takes =>
      obtain ⟨fuel, rfl⟩ := Nat.exists_eq_add_of_le' enough
      simp [drain, takes rest]
  | @more reader piece next later message last takes carried inductionHypothesis =>
      simp only [List.length_cons] at enough ⊢
      obtain ⟨fuel, rfl⟩ := Nat.exists_eq_add_of_le' (Nat.le_trans (Nat.succ_pos _) enough)
      have shorter : later.length ≤ fuel := by omega
      have continued := inductionHypothesis shorter
      rw [List.flatten_cons, List.append_assoc, drain, takes]
      simp only [List.nil_append, continued]
      congr 2
      omega

theorem Carries.drain_cut {reader next : Reader} {before after : List (List Symbol)}
    {piece : List Symbol} {message : Message} (locally : ReadsLocally read)
    (carries : Carries read reader (before ++ piece :: after) message next) {count : Nat}
    (short : count < piece.length) (fuel : Nat) :
    drain read fuel reader (before.flatten ++ piece.take count) = [] := by
  induction before generalizing reader fuel with
  | nil =>
      cases fuel with
      | zero => rfl
      | succ fuel =>
          have failed : read reader (piece.take count) = none := by
            cases carries with
            | last takes => exact takes.short locally short
            | more takes carried => exact takes.short locally short
          simp [drain, failed]
  | cons first rest inductionHypothesis =>
      cases fuel with
      | zero => rfl
      | succ fuel =>
          rw [List.cons_append] at carries
          generalize pieces : rest ++ piece :: after = remaining at carries
          cases carries with
          | last takes => simp at pieces
          | more takes carried =>
              subst pieces
              rw [List.flatten_cons, List.append_assoc, drain, takes]
              exact inductionHypothesis carried fuel

end Reader

/-! ## Sessions -/

section Session

variable {Symbol : Type u} {Sender : Type v} {Item : Type w}
variable (send : Sender → Item → List (List Symbol) × Sender) (closed : Sender)

/-- Send one item; a failed write ends the session. -/
def transmit (state : Link Symbol × Sender) (item : Item) : Bool × Link Symbol × Sender :=
  match state.1.pushAll (send state.2 item).1 with
  | (true, link) => (true, link, (send state.2 item).2)
  | (false, link) => (false, link, closed)

/-- Send a list of items, also after a failure, and keep the outcomes beside them. -/
def transmitAll (state : Link Symbol × Sender) :
    List Item → List (Item × Bool) × Link Symbol × Sender
  | [] => ([], state)
  | item :: rest =>
      let sent := transmit send closed state item
      let later := transmitAll sent.2 rest
      ((item, sent.1) :: later.1, later.2)

def SentWith (Ok : Sender → Item → Prop) : Sender → List Item → Prop
  | _, [] => True
  | sender, item :: rest => Ok sender item ∧ SentWith Ok (send sender item).2 rest

instance decidableSentWith (Ok : Sender → Item → Prop) [∀ sender item, Decidable (Ok sender item)] :
    ∀ sender items, Decidable (SentWith send Ok sender items)
  | _, [] => isTrue trivial
  | sender, item :: rest =>
      have := decidableSentWith Ok (send sender item).2 rest
      inferInstanceAs (Decidable (Ok sender item ∧ SentWith send Ok (send sender item).2 rest))

def sentState : Sender → List Item → Sender
  | sender, [] => sender
  | sender, item :: rest => sentState (send sender item).2 rest

def accepted (outcomes : List (Item × Bool)) : List Item :=
  (outcomes.filter fun outcome => outcome.2).map Prod.fst

variable {send}

theorem sentWith_append {Ok : Sender → Item → Prop} {sender : Sender} {first second : List Item} :
    SentWith send Ok sender (first ++ second) ↔
      SentWith send Ok sender first ∧ SentWith send Ok (sentState send sender first) second := by
  induction first generalizing sender with
  | nil => simp [SentWith, sentState]
  | cons item rest inductionHypothesis =>
      simp only [List.cons_append, SentWith, sentState, inductionHypothesis, and_assoc]

theorem transmitAll_append (state : Link Symbol × Sender) (first second : List Item) :
    transmitAll send closed state (first ++ second) =
      ((transmitAll send closed state first).1 ++
          (transmitAll send closed (transmitAll send closed state first).2 second).1,
        (transmitAll send closed (transmitAll send closed state first).2 second).2) := by
  induction first generalizing state with
  | nil => rfl
  | cons item rest inductionHypothesis =>
      simp only [List.cons_append, transmitAll, inductionHypothesis]

theorem transmitAll_items (state : Link Symbol × Sender) (items : List Item) :
    (transmitAll send closed state items).1.map Prod.fst = items := by
  induction items generalizing state with
  | nil => rfl
  | cons item rest inductionHypothesis =>
      simp only [transmitAll, List.map_cons, inductionHypothesis]

/-- What a send and the end of the session keep, a list of sends keeps. -/
theorem transmitAll_keeps {Kept : Sender → Prop} (shut : Kept closed)
    (keeps : ∀ sender item, Kept sender → Kept (send sender item).2)
    {state : Link Symbol × Sender} (kept : Kept state.2) (items : List Item) :
    Kept (transmitAll send closed state items).2.2 := by
  induction items generalizing state with
  | nil => exact kept
  | cons item rest inductionHypothesis =>
      rw [transmitAll]
      apply inductionHypothesis
      rw [transmit]
      split
      · exact keeps state.2 item kept
      · exact shut

theorem accepted_append (first second : List (Item × Bool)) :
    accepted (first ++ second) = accepted first ++ accepted second := by
  simp [accepted]

theorem transmitAll_closed {link : Link Symbol} (shut : link.isOpen = false)
    (some_ : ∀ sender item, (send sender item).1 ≠ []) (sender : Sender) (items : List Item) :
    accepted (transmitAll send closed (link, sender) items).1 = [] ∧
      (transmitAll send closed (link, sender) items).2.1 = link := by
  induction items generalizing sender with
  | nil => exact ⟨rfl, rfl⟩
  | cons item rest inductionHypothesis =>
      have failed : transmit send closed (link, sender) item = (false, link, closed) := by
        rw [transmit, Link.pushAll_closed shut (some_ sender item)]
      obtain ⟨none_, same⟩ := inductionHypothesis closed
      rw [transmitAll, failed]
      exact ⟨by simpa [accepted] using none_, same⟩

variable {Reader Message : Type*}
variable {read : Reader → List Symbol → Option (Reader × List Message × List Symbol)}

/-- The session rule: when the reader carries every item sent from a related state, it reads
exactly the accepted items from the wire, wherever the link breaks. -/
theorem drain_transmitAll {Related : Sender → Reader → Prop} {Ok : Sender → Item → Prop}
    {view : Item → Message} (locally : ReadsLocally read)
    (stopped : ∀ reader, read reader [] = none)
    (pieces : ∀ sender item, (send sender item).1 ≠ [] ∧
      ∀ piece ∈ (send sender item).1, piece ≠ [])
    (carried : ∀ sender reader item, Related sender reader → Ok sender item →
      ∃ next, Carries read reader (send sender item).1 (view item) next ∧
        Related (send sender item).2 next)
    (closed : Sender) (wire : List Symbol) (room : Nat)
    {sender : Sender} {reader : Reader} {items : List Item} (related : Related sender reader)
    (sentWith : SentWith send Ok sender items) :
    ∃ added, (transmitAll send closed (⟨wire, room, true⟩, sender) items).2.1.wire = wire ++ added ∧
      ∀ fuel, added.length ≤ fuel →
        drain read fuel reader added =
          (accepted (transmitAll send closed (⟨wire, room, true⟩, sender) items).1).map view := by
  induction items generalizing sender reader room wire with
  | nil =>
      refine ⟨[], by simp [transmitAll], ?_⟩
      intro fuel _
      cases fuel with
      | zero => rfl
      | succ fuel => simp [drain, stopped, transmitAll, accepted]
  | cons item rest inductionHypothesis =>
      obtain ⟨ok, laterOk⟩ := sentWith
      obtain ⟨next, carries, relatedNext⟩ := carried sender reader item related ok
      cases pushed : (Link.mk wire room true).pushAll (send sender item).1 with
      | mk success link =>
          cases success with
          | false =>
              have failed : transmit send closed (⟨wire, room, true⟩, sender) item =
                  (false, link, closed) := by
                rw [transmit, pushed]
              obtain ⟨before, piece, after, count, split, short, written, shut⟩ :=
                Link.pushAll_false rfl pushed
              obtain ⟨none_, same⟩ :=
                transmitAll_closed closed shut (fun sender item => (pieces sender item).1) closed rest
              refine ⟨before.flatten ++ piece.take count, ?_, ?_⟩
              · rw [transmitAll, failed]
                dsimp only
                rw [same, written, List.append_assoc]
              · intro fuel _
                rw [split] at carries
                rw [carries.drain_cut locally short, transmitAll, failed]
                simpa [accepted] using none_
          | true =>
              have succeeded : transmit send closed (⟨wire, room, true⟩, sender) item =
                  (true, link, (send sender item).2) := by
                rw [transmit, pushed]
              obtain ⟨written, stillOpen⟩ := Link.pushAll_true rfl pushed
              obtain ⟨linkWire, linkRoom, linkOpen⟩ := link
              dsimp only at written stillOpen
              subst written stillOpen
              obtain ⟨added, wireAdded, drained⟩ :=
                inductionHypothesis (wire ++ (send sender item).1.flatten) linkRoom relatedNext
                  laterOk
              refine ⟨(send sender item).1.flatten ++ added, ?_, ?_⟩
              · rw [transmitAll, succeeded]
                dsimp only
                rw [wireAdded, List.append_assoc]
              · intro fuel enough
                have count : (send sender item).1.length ≤ (send sender item).1.flatten.length :=
                  length_le_length_flatten (pieces sender item).2
                rw [List.length_append] at enough
                rw [carries.drain_eq (by omega), drained _ (by omega), transmitAll, succeeded]
                simp [accepted]

end Session

end RejiStudio.Lib
