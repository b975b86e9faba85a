import Mathlib.Algebra.Order.Ring.Int
import Mathlib.Tactic.Common

/-!
# Text as a list of characters

Searching, splitting, trimming and reading integers, with the conventions of a
standard string library: matches are found from left to right and do not
overlap, white space is the Unicode property.
-/

namespace RejiStudio.Lib.Text

def isWhiteSpace (c : Char) : Bool :=
  let n := c.toNat
  (9 ≤ n && n ≤ 13) || n == 0x20 || n == 0x85 || n == 0xA0 || n == 0x1680 ||
    (0x2000 ≤ n && n ≤ 0x200A) || n == 0x2028 || n == 0x2029 || n == 0x202F ||
    n == 0x205F || n == 0x3000

def trimStart (text : List Char) : List Char := text.dropWhile isWhiteSpace

def trim (text : List Char) : List Char := (trimStart (trimStart text).reverse).reverse

theorem length_trim_le (text : List Char) : (trim text).length ≤ text.length := by
  have shorter : ∀ text : List Char, (trimStart text).length ≤ text.length :=
    fun text => (List.dropWhile_sublist _).length_le
  calc
    (trim text).length ≤ (trimStart text).reverse.length := by
      rw [trim, List.length_reverse]
      exact shorter _
    _ ≤ text.length := by
      rw [List.length_reverse]
      exact shorter text

def splitFirst (pattern : List Char) : List Char → Option (List Char × List Char)
  | [] => if pattern = [] then some ([], []) else none
  | c :: rest =>
      if pattern.isPrefixOf (c :: rest) then
        some ([], (c :: rest).drop pattern.length)
      else
        (splitFirst pattern rest).map fun (before, after) => (c :: before, after)

theorem length_splitFirst {pattern text before after : List Char}
    (found : splitFirst pattern text = some (before, after)) :
    before.length + pattern.length + after.length = text.length := by
  induction text generalizing before with
  | nil =>
      obtain ⟨rfl, equal⟩ := Option.ite_none_right_eq_some.mp found
      cases equal
      rfl
  | cons c rest inductionHypothesis =>
      unfold splitFirst at found
      split at found
      next starts =>
        have fits := (List.isPrefixOf_iff_prefix.mp starts).length_le
        cases found
        simp only [List.length_nil, List.length_drop]
        omega
      next =>
        obtain ⟨⟨front, back⟩, inner, equal⟩ := Option.map_eq_some_iff.mp found
        cases equal
        have length := inductionHypothesis inner
        simp only [List.length_cons]
        omega

def contains (pattern text : List Char) : Bool := (splitFirst pattern text).isSome

def split (pattern : List Char) (nonempty : pattern ≠ []) (text : List Char) :
    List (List Char) :=
  match _found : splitFirst pattern text with
  | none => [text]
  | some (before, after) => before :: split pattern nonempty after
termination_by text.length
decreasing_by
  have length := length_splitFirst _found
  have positive := List.length_pos_iff.mpr nonempty
  omega

theorem split_of_absent {pattern : List Char} {nonempty : pattern ≠ []} {text : List Char}
    (absent : splitFirst pattern text = none) : split pattern nonempty text = [text] := by
  rw [split]
  split
  next => rfl
  next found => rw [absent] at found; cases found

theorem split_of_found {pattern : List Char} {nonempty : pattern ≠ []}
    {text before after : List Char} (found : splitFirst pattern text = some (before, after)) :
    split pattern nonempty text = before :: split pattern nonempty after := by
  rw [split]
  split
  next absent => rw [found] at absent; cases absent
  next first rest same =>
    rw [found] at same
    cases same
    rfl

theorem length_le_of_mem_split {pattern : List Char} {nonempty : pattern ≠ []}
    {text piece : List Char} (membership : piece ∈ split pattern nonempty text) :
    piece.length ≤ text.length := by
  induction text using split.induct pattern nonempty with
  | case1 text absent =>
      rw [split_of_absent absent] at membership
      exact Nat.le_of_eq (congrArg List.length (List.mem_singleton.mp membership))
  | case2 text before after found inductionHypothesis =>
      rw [split_of_found found] at membership
      have length := length_splitFirst found
      rcases List.mem_cons.mp membership with rfl | later
      · omega
      · have shorter := inductionHypothesis later
        omega

/-- A text that contains the pattern is longer than each of its pieces. -/
theorem length_lt_of_mem_split {pattern : List Char} {nonempty : pattern ≠ []}
    {text piece : List Char} (occurs : contains pattern text = true)
    (membership : piece ∈ split pattern nonempty text) : piece.length < text.length := by
  obtain ⟨⟨before, after⟩, found⟩ := Option.isSome_iff_exists.mp occurs
  have length := length_splitFirst found
  have positive := List.length_pos_iff.mpr nonempty
  rw [split_of_found found] at membership
  rcases List.mem_cons.mp membership with rfl | later
  · omega
  · have shorter := length_le_of_mem_split later
    omega

/-- The value of a list of decimal digits, on top of what was read before. -/
def readDigits : Nat → List Char → Option Nat
  | value, [] => some value
  | value, c :: rest =>
      if c.isDigit then readDigits (10 * value + (c.toNat - '0'.toNat)) rest else none

def parseNat : List Char → Option Nat
  | [] => none
  | digits => readDigits 0 digits

/-- A sign is optional; a value out of range is not read. -/
def parseInt32 (text : List Char) : Option Int32 :=
  let value : Option Int :=
    match text with
    | '+' :: digits => (parseNat digits).map fun n => (n : Int)
    | '-' :: digits => (parseNat digits).map fun n => -(n : Int)
    | digits => (parseNat digits).map fun n => (n : Int)
  value.bind fun n => if -2 ^ 31 ≤ n ∧ n < 2 ^ 31 then some (Int32.ofInt n) else none

example : (parseInt32 "+85".toList, parseInt32 "-".toList, parseInt32 "2147483648".toList) =
    (some 85, none, none) := by decide

end RejiStudio.Lib.Text
