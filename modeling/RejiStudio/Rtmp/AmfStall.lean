import RejiStudio.Rtmp.AmfWire

/-!
# A message that is never read to its end

The length of a long string is compared as a `long` and subtracted as an `unsigned int`.  For
one length the property takes no bytes at all, and `AMF_Decode` meets it again and again.
-/

namespace RejiStudio.Rtmp

open RejiStudio.Lib

namespace Amf

/-- The second run ends as the first one does, unless that was cut off. -/
def Extends {Value : Type} (run longer : Except Fault Value) : Prop :=
  run = .error .unfinished ∨ longer = run

theorem Extends.refl {Value : Type} (run : Except Fault Value) : Extends run run := Or.inr rfl

theorem Extends.bind {First Second : Type} {run longer : Except Fault First}
    {next nextLonger : First → Except Fault Second} (first : Extends run longer)
    (later : ∀ value, Extends (next value) (nextLonger value)) :
    Extends (run >>= next) (longer >>= nextLonger) := by
  rcases first with cut | same
  · rw [cut]
    exact Or.inl rfl
  · rw [same]
    cases run with
    | error fault => exact Or.inr rfl
    | ok value => exact later value

section Fuel

variable (memory : Memory) (amf3 : Int → Int → Except Fault (Option (Int × List AmfProp)))

structure Grows (fuel : Nat) : Prop where
  prop : ∀ pos nSize named,
    Extends (decodeProp memory amf3 fuel pos nSize named)
      (decodeProp memory amf3 (fuel + 1) pos nSize named)
  value : ∀ name pos nSize,
    Extends (decodeValue memory amf3 fuel name pos nSize)
      (decodeValue memory amf3 (fuel + 1) name pos nSize)
  loop : ∀ pos nSize named,
    Extends (decodeLoop memory amf3 fuel pos nSize named)
      (decodeLoop memory amf3 (fuel + 1) pos nSize named)
  elements : ∀ pos nSize count,
    Extends (decodeElements memory amf3 fuel pos nSize count)
      (decodeElements memory amf3 (fuel + 1) pos nSize count)

theorem grows (fuel : Nat) : Grows memory amf3 fuel := by
  induction fuel with
  | zero =>
      constructor
      case prop => exact fun _ _ _ => Or.inl rfl
      case value => exact fun _ _ _ => Or.inl rfl
      case loop => exact fun _ _ _ => Or.inl rfl
      case elements => exact fun _ _ _ => Or.inl rfl
  | succ fuel inductionHypothesis =>
      constructor
      case prop =>
        intro pos nSize named
        rw [decodeProp, decodeProp]
        split
        case isTrue => exact .refl _
        case isFalse =>
            split
            case isFalse =>
                exact .bind (inductionHypothesis.value _ _ _) fun _ => .refl _
            case isTrue =>
                apply Extends.bind (.refl _)
                intro nameSize
                split
                case isTrue => exact .refl _
                case isFalse =>
                    exact .bind (inductionHypothesis.value _ _ _) fun _ => .refl _
      case value =>
        intro name pos nSize
        rw [decodeValue, decodeValue]
        split
        case isTrue => exact .refl _
        case isFalse =>
            apply Extends.bind (.refl _)
            intro type
            split
            case h_4 => exact .bind (inductionHypothesis.loop _ _ _) fun _ => .refl _
            case h_8 => exact .bind (inductionHypothesis.loop _ _ _) fun _ => .refl _
            case h_9 =>
                apply Extends.bind (.refl _)
                intro count
                exact .bind (inductionHypothesis.elements _ _ _) fun _ => .refl _
            all_goals exact .refl _
      case loop =>
        intro pos nSize named
        rw [decodeLoop, decodeLoop]
        split
        case isTrue => exact .refl _
        case isFalse =>
            apply Extends.bind (.refl _)
            intro mark
            split
            case isTrue => exact .refl _
            case isFalse =>
                apply Extends.bind (inductionHypothesis.prop _ _ _)
                intro found
                cases found with
                | none => exact .refl _
                | some found =>
                    dsimp only
                    split
                    case isTrue => exact .refl _
                    case isFalse =>
                        exact .bind (inductionHypothesis.loop _ _ _) fun _ => .refl _
      case elements =>
        intro pos nSize count
        rw [decodeElements, decodeElements]
        split
        case isTrue => exact .refl _
        case isFalse =>
            split
            case isTrue => exact .refl _
            case isFalse =>
                apply Extends.bind (inductionHypothesis.prop _ _ _)
                intro found
                cases found with
                | none => exact .refl _
                | some found =>
                    exact .bind (inductionHypothesis.elements _ _ _) fun _ => .refl _

end Fuel

section Stall

variable {memory : Memory} {amf3 : Int → Int → Except Fault (Option (Int × List AmfProp))}
variable {pos nSize : Int} {named : Bool}

/-- Where one run reads a property, any other reads the same one or is cut off. -/
theorem decodeProp_agrees {bound : Nat} {answer : Option (Int × AmfProp)}
    (read : decodeProp memory amf3 bound pos nSize named = .ok answer) (fuel : Nat) :
    decodeProp memory amf3 fuel pos nSize named = .error .unfinished ∨
      decodeProp memory amf3 fuel pos nSize named = .ok answer := by
  have longer : ∀ more, Extends (decodeProp memory amf3 fuel pos nSize named)
      (decodeProp memory amf3 (fuel + more) pos nSize named) := by
    intro more
    induction more with
    | zero => exact .refl _
    | succ more inductionHypothesis =>
        rcases inductionHypothesis with cut | same
        · exact Or.inl cut
        · have next := (grows memory amf3 (fuel + more)).prop pos nSize named
          rw [same] at next
          exact next
  have kept : ∀ more, decodeProp memory amf3 (bound + more) pos nSize named = .ok answer := by
    intro more
    induction more with
    | zero => exact read
    | succ more inductionHypothesis =>
        rcases (grows memory amf3 (bound + more)).prop pos nSize named with cut | same
        · rw [inductionHypothesis] at cut
          cases cut
        · exact same.trans inductionHypothesis
  rcases longer bound with cut | same
  · exact Or.inl cut
  · refine Or.inr (same.symm.trans ?_)
    rw [Nat.add_comm]
    exact kept fuel

def stallingString : List UInt8 := [12, 255, 255, 255, 251]

theorem decodeValue_stalling {fuel : Nat} (room : 5 ≤ nSize) (short : nSize < 2147483648)
    (held : Holds memory pos stallingString) :
    decodeValue memory amf3 (fuel + 1) [] pos nSize = .ok (some (nSize, .string [] [])) := by
  have sizeHeld : Holds memory (pos + 1) (bigEndian32 (UInt32.ofNat 4294967291)) := held.cons.2
  have sizeEq : wrap ((4294967291 : Nat) : Int) = -5 := by decide
  have leftEq : wrap (nSize - 1 - (4 + ((4294967291 : Nat) : Int))) = nSize := by
    have turn : nSize - 1 - (4 + ((4294967291 : Nat) : Int)) = nSize - ((4294967296 : Nat) : Int) := by
      omega
    rw [wrap, turn, Int.sub_bmod_right]
    exact wrap_of_small (by omega) short
  rw [decodeValue, if_neg (by omega), byteAt_of_holds held.cons.1]
  change (int32At memory (pos + 1) >>= fun size => _) = _
  rw [int32At_of_holds (by decide) sizeHeld, ok_bind, if_neg (by rw [sizeEq]; omega), leftEq,
    sizeEq]
  rfl

theorem decodeProp_stalling {fuel : Nat} (room : 5 ≤ nSize) (short : nSize < 2147483648)
    (held : Holds memory pos stallingString) :
    decodeProp memory amf3 (fuel + 2) pos nSize false = .ok (some (0, .string [] [])) := by
  have forward : settle nSize (some (nSize, AmfProp.string [] [])) = some (0, .string [] []) := by
    rw [settle_some (Int.le_refl nSize) (by omega), Int.sub_self]
  rw [decodeProp, if_neg (by simp; omega), if_neg Bool.false_ne_true,
    decodeValue_stalling room short held, ok_bind, forward]
  rfl

theorem decodeLoop_stalls (room : 5 ≤ nSize) (short : nSize < 2147483648)
    (held : Holds memory pos stallingString) (fuel : Nat) :
    decodeLoop memory amf3 fuel pos nSize false = .error .unfinished := by
  induction fuel with
  | zero => rfl
  | succ fuel inductionHypothesis =>
      have whole : Holds memory pos ([12, 255, 255] ++ [255, 251]) := held
      have marked : markAt memory pos nSize = .ok (readBigEndian24 12 255 255) :=
        (if_pos (by omega)).trans (int24At_of_holds whole.left)
      have stalling : decodeProp memory amf3 2 pos nSize false = .ok (some (0, .string [] [])) :=
        decodeProp_stalling room short held
      rw [decodeLoop, if_neg (by omega), marked, ok_bind, if_neg (by decide)]
      rcases decodeProp_agrees stalling fuel with cut | read
      · rw [cut]
        rfl
      · rw [read, ok_bind]
        dsimp only
        rw [if_neg (by omega), Int.add_zero, Int.sub_zero, inductionHypothesis]
        rfl

end Stall

/-- From `pos`, with `nSize` bytes left, `AMF_Decode` reads properties one after the other and
gets to `stop`. -/
inductive Reaches (memory : Memory)
    (amf3 : Int → Int → Except Fault (Option (Int × List AmfProp))) :
    Int → Int → Int → Int → Prop
  | here (pos nSize : Int) : Reaches memory amf3 pos nSize pos nSize
  | further {pos nSize nRes stop left : Int} {mark fuel : Nat} {prop : AmfProp}
      (positive : 0 < nSize) (marked : markAt memory pos nSize = .ok mark) (notEnd : mark ≠ 9)
      (read : decodeProp memory amf3 fuel pos nSize false = .ok (some (nRes, prop)))
      (within : nRes ≤ nSize) (later : Reaches memory amf3 (pos + nRes) (nSize - nRes) stop left) :
      Reaches memory amf3 pos nSize stop left

section Message

variable {memory : Memory} {amf3 : Int → Int → Except Fault (Option (Int × List AmfProp))}
variable {pos nSize stop left : Int}

theorem Reaches.same_end (reached : Reaches memory amf3 pos nSize stop left) :
    stop + left = pos + nSize := by
  induction reached with
  | here => rfl
  | further _ _ _ _ _ _ inductionHypothesis => omega

theorem message_stalls (reached : Reaches memory amf3 pos nSize stop left) (room : 5 ≤ left)
    (short : left < 2147483648) (held : Holds memory stop stallingString) (fuel : Nat) :
    decodeLoop memory amf3 fuel pos nSize false = .error .unfinished := by
  induction reached generalizing fuel with
  | here => exact decodeLoop_stalls room short held fuel
  | further positive marked notEnd read within _ inductionHypothesis =>
      cases fuel with
      | zero => rfl
      | succ fuel =>
          rw [decodeLoop, if_neg (by omega), marked, ok_bind, if_neg notEnd]
          rcases decodeProp_agrees read fuel with cut | same
          · rw [cut]
            rfl
          · rw [same, ok_bind]
            dsimp only
            rw [if_neg (by omega), inductionHypothesis room short held fuel]
            rfl

/-- A body in which `AMF_Decode` gets to such a header keeps it busy for ever, whatever it read
before and whatever follows. -/
theorem stalling_message_never_read
    (amf3 : Int → Int → Except Fault (Option (Int × List AmfProp))) (body : List UInt8)
    (short : body.length < 2147483648) {stop left : Int}
    (reached : Reaches (Memory.ofBody body) amf3 0 body.length stop left)
    (held : Holds (Memory.ofBody body) stop stallingString) (fuel : Nat) :
    decode (Memory.ofBody body) amf3 fuel 0 body.length false = .error .unfinished := by
  have total := reached.same_end
  have first : Memory.ofBody body stop = some 12 := held.cons.1
  have last : Memory.ofBody body (stop + 4) = some 251 := held 4 _ rfl
  have forward : 0 ≤ stop := by
    by_contra behind
    rw [Memory.ofBody, if_neg behind] at first
    cases first
  have inside : (stop + 4).toNat < body.length := by
    rw [Memory.ofBody, if_pos (by omega)] at last
    exact (List.getElem?_eq_some_iff.mp last).1
  unfold decode
  rw [message_stalls reached (by omega) (by omega) held fuel]
  rfl

def stallingBody : List UInt8 :=
  [1, 1] ++ [11, 0, 0, 0, 0, 0, 0, 0, 0, 0, 0] ++ [6] ++ stallingString ++ [7]

theorem stalling_message_never_read_status :
    Reaches (Memory.ofBody stallingBody) (fun _ _ => .ok none) 0 stallingBody.length 14 6 ∧
      ∀ fuel, decode (Memory.ofBody stallingBody) (fun _ _ => .ok none) fuel 0
        stallingBody.length false = .error .unfinished := by
  have undefined : Reaches (Memory.ofBody stallingBody) (fun _ _ => .ok none) 13 7 14 6 :=
    .further (by decide) rfl (by decide) (show decodeProp _ _ 2 _ _ _ = _ from rfl) (by decide)
      (.here 14 6)
  have date : Reaches (Memory.ofBody stallingBody) (fun _ _ => .ok none) 2 18 14 6 :=
    .further (by decide) rfl (by decide) (show decodeProp _ _ 2 _ _ _ = _ from rfl) (by decide)
      undefined
  have reached : Reaches (Memory.ofBody stallingBody) (fun _ _ => .ok none) 0
      stallingBody.length 14 6 :=
    .further (by decide) rfl (by decide) (show decodeProp _ _ 2 _ _ _ = _ from rfl) (by decide)
      date
  have held : Holds (Memory.ofBody stallingBody) 14 stallingString := by
    have whole : Holds (Memory.ofBody stallingBody) 0
        (stallingBody.take 14 ++ (stallingString ++ [7])) := holds_ofBody stallingBody
    exact whole.right.left
  exact ⟨reached, stalling_message_never_read _ stallingBody (by decide) reached held⟩

end Message

end Amf

end RejiStudio.Rtmp
