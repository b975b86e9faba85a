import RejiStudio.Lib.LossyText

/-!
# Strings from the C++ side

`cstr_bounded` looks for the terminating NUL in a bounded number of bytes.  A pointer is
the bytes behind it, or none where it is null.
-/

namespace RejiStudio.Ws

open RejiStudio.Lib

def maxFfiStrLen : Nat := 4096

/-- The loop of `cstr_bounded`: the first NUL among the next `budget` bytes. -/
def scanNul (bytes : Nat → UInt8) : Nat → Nat → Option Nat
  | 0, _ => none
  | budget + 1, len => if bytes len = 0 then some len else scanNul bytes budget (len + 1)

def cstrBounded (ptr : Option (Nat → UInt8)) (maxLen : Nat) : Option String :=
  ptr.bind fun bytes =>
    (scanNul bytes maxLen 0).map fun len =>
      String.ofList (LossyText.decode ((List.range len).map bytes))

structure CString (bytes : Nat → UInt8) (text : List UInt8) : Prop where
  content : (List.range text.length).map bytes = text
  nonzero : ∀ byte ∈ text, byte ≠ 0
  terminated : bytes text.length = 0

def terminate (text : List UInt8) (index : Nat) : UInt8 := text.getD index 0

theorem cstring_terminate {text : List UInt8} (nonzero : ∀ byte ∈ text, byte ≠ 0) :
    CString (terminate text) text where
  content := by
    apply List.ext_getElem
    · simp
    · intro index _ bound
      simp [terminate, List.getElem?_eq_getElem bound]
  nonzero := nonzero
  terminated := by simp [terminate]

theorem CString.bytes_ne_zero {bytes : Nat → UInt8} {text : List UInt8}
    (cstring : CString bytes text) {index : Nat} (inside : index < text.length) :
    bytes index ≠ 0 := by
  have member : bytes index ∈ (List.range text.length).map bytes :=
    List.mem_map_of_mem (List.mem_range.mpr inside)
  rw [cstring.content] at member
  exact cstring.nonzero _ member

theorem CString.scanNul {bytes : Nat → UInt8} {text : List UInt8} (cstring : CString bytes text)
    (budget len : Nat) (within : len ≤ text.length) :
    Ws.scanNul bytes budget len =
      if text.length < len + budget then some text.length else none := by
  induction budget generalizing len with
  | zero =>
      rw [if_neg (by omega)]
      rfl
  | succ budget inductionHypothesis =>
      rw [Ws.scanNul]
      rcases Nat.lt_or_eq_of_le within with inside | rfl
      · rw [if_neg (cstring.bytes_ne_zero inside), inductionHypothesis (len + 1) inside]
        have moved : len + 1 + budget = len + (budget + 1) := by omega
        rw [moved]
      · rw [if_pos cstring.terminated, if_pos (by omega)]

/-- A text shorter than the bound is read as it is, a longer one is refused. -/
theorem CString.cstrBounded {bytes : Nat → UInt8} {text : List UInt8}
    (cstring : CString bytes text) (maxLen : Nat) :
    Ws.cstrBounded (some bytes) maxLen =
      if text.length < maxLen then some (String.ofList (LossyText.decode text)) else none := by
  rw [Ws.cstrBounded, Option.bind_some, cstring.scanNul maxLen 0 (Nat.zero_le _), Nat.zero_add]
  split
  · rw [Option.map_some, cstring.content]
  · rfl

end RejiStudio.Ws
