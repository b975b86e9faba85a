import Mathlib.Tactic.Common

/-!
# Text read from bytes

Reading bytes as UTF-8 with a replacement character for every invalid sequence: the
longest start of a character at that place, or one byte.  Valid text comes back as it is.
-/

namespace RejiStudio.Lib.LossyText

def encode (text : List Char) : List UInt8 := text.flatMap String.utf8EncodeChar

def replacement : Char := '\uFFFD'

def isContinuation (byte : UInt8) : Bool := 0x80 ≤ byte && byte ≤ 0xBF

/-- The second byte may follow the first in a character of three bytes. -/
def startsThree (first second : UInt8) : Bool :=
  (first == 0xE0 && 0xA0 ≤ second && second ≤ 0xBF) ||
    (0xE1 ≤ first && first ≤ 0xEC && isContinuation second) ||
    (first == 0xED && 0x80 ≤ second && second ≤ 0x9F) ||
    (0xEE ≤ first && first ≤ 0xEF && isContinuation second)

def startsFour (first second : UInt8) : Bool :=
  (first == 0xF0 && 0x90 ≤ second && second ≤ 0xBF) ||
    (0xF1 ≤ first && first ≤ 0xF3 && isContinuation second) ||
    (first == 0xF4 && 0x80 ≤ second && second ≤ 0x8F)

def invalidTail (first : UInt8) : List UInt8 → Nat
  | second :: third :: _ =>
      if startsThree first second then 1
      else if startsFour first second then (if isContinuation third then 2 else 1)
      else 0
  | [second] => if startsThree first second || startsFour first second then 1 else 0
  | [] => 0

def decode : List UInt8 → List Char
  | [] => []
  | first :: rest =>
      match ByteArray.utf8DecodeChar? (first :: rest).toByteArray 0 with
      | some c => c :: decode (rest.drop (c.utf8Size - 1))
      | none => replacement :: decode (rest.drop (invalidTail first rest))
termination_by bytes => bytes.length
decreasing_by all_goals simp only [List.length_drop, List.length_cons]; omega

theorem decode_char_append (c : Char) (rest : List UInt8) :
    decode (String.utf8EncodeChar c ++ rest) = c :: decode rest := by
  have decoded : ByteArray.utf8DecodeChar? (String.utf8EncodeChar c ++ rest).toByteArray 0 =
      some c := by
    rw [List.toByteArray_append]
    exact ByteArray.utf8DecodeChar?_utf8EncodeChar_append
  have size : (String.utf8EncodeChar c).length = c.utf8Size := String.length_utf8EncodeChar c
  cases bytes : String.utf8EncodeChar c with
  | nil =>
      rw [bytes, List.length_nil] at size
      exact absurd size.symm (Nat.pos_iff_ne_zero.mp c.utf8Size_pos)
  | cons first tail =>
      rw [bytes, List.length_cons] at size
      rw [bytes, List.cons_append] at decoded
      rw [List.cons_append, decode, decoded]
      dsimp only
      rw [← size, Nat.add_sub_cancel, List.drop_left]

theorem decode_encode (text : List Char) : decode (encode text) = text := by
  induction text with
  | nil =>
      rw [encode, List.flatMap_nil, decode]
  | cons c rest inductionHypothesis =>
      have unfolded : encode (c :: rest) = String.utf8EncodeChar c ++ encode rest := rfl
      rw [unfolded, decode_char_append, inductionHypothesis]

end RejiStudio.Lib.LossyText
