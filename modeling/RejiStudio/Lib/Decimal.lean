import RejiStudio.Lib.Delimited

/-!
# Decimal numbers with leading zeros

A number is written with its digits and as many zeros in front as a width asks for, and
read back.
-/

namespace RejiStudio.Lib.Text

def padded (width number : Nat) : List Char :=
  List.replicate (width - (Nat.toDigits 10 number).length) '0' ++ Nat.toDigits 10 number

theorem isDigit_of_mem_padded {width number : Nat} {c : Char}
    (membership : c ∈ padded width number) : c.isDigit = true := by
  rcases List.mem_append.mp membership with zero | digit
  · rw [List.eq_of_mem_replicate zero]
    rfl
  · exact Nat.isDigit_of_mem_toDigits (by decide) (by decide) digit

theorem notMem_padded {c : Char} (other : c.isDigit = false) (width number : Nat) :
    c ∉ padded width number := by
  intro membership
  rw [isDigit_of_mem_padded membership] at other
  contradiction

theorem readDigits_of_digits {digits : List Char} (decimal : ∀ c ∈ digits, c.isDigit = true)
    (value : Nat) : readDigits value digits = some (Nat.ofDigitChars 10 digits value) := by
  induction digits generalizing value with
  | nil => rfl
  | cons c rest inductionHypothesis =>
      have later : ∀ c ∈ rest, c.isDigit = true := fun c membership =>
        decimal c (List.mem_cons_of_mem _ membership)
      rw [readDigits, if_pos (decimal c List.mem_cons_self), inductionHypothesis later,
        Nat.ofDigitChars_cons]

theorem parseNat_padded (width number : Nat) : parseNat (padded width number) = some number := by
  have decimal : ∀ c ∈ padded width number, c.isDigit = true := fun _ => isDigit_of_mem_padded
  have value : Nat.ofDigitChars 10 (padded width number) 0 = number := by
    rw [padded, Nat.ofDigitChars_append, Nat.ofDigitChars_replicate_zero, Nat.mul_zero,
      Nat.ofDigitChars_toDigits (by decide) (by decide)]
  have present : padded width number ≠ [] :=
    List.append_ne_nil_of_right_ne_nil _ Nat.toDigits_ne_nil
  cases digits : padded width number with
  | nil => exact absurd digits present
  | cons first rest =>
      rw [parseNat, ← digits, readDigits_of_digits decimal, value]
      exact nofun

end RejiStudio.Lib.Text
