import Mathlib.Data.List.Basic
import QueryOptions.Literal

/-!
# Numerals read back

The decimal digits of a number determine it, and a whole number is written as
a literal in nothing but its sign and its digits.
-/

namespace QueryOptions.Decimal

theorem digits_injective {m n : Nat} (same : digits m = digits n) : m = n := by
  have values := congrArg (fun text => Nat.ofDigitChars 10 text 0) same
  simpa [digits] using values

theorem digits_ne_nil (n : Nat) : digits n ≠ [] := Nat.toDigits_ne_nil

theorem head?_digits_ne_zero {n : Nat} (positive : 0 < n) : (digits n).head? ≠ some '0' := by
  have single : ∀ d < 10, 0 < d → [Nat.digitChar d].head? ≠ some '0' := by decide
  induction n using Nat.strongRecOn with
  | ind n inductionHypothesis =>
      rw [digits, Nat.toDigits_eq_if (by decide)]
      split
      next less => exact single n less positive
      next long =>
        rw [List.head?_append_of_ne_nil _ Nat.toDigits_ne_nil]
        exact inductionHypothesis (n / 10) (by omega) (by omega)

theorem isDigit_of_mem_digits {c : Char} {n : Nat} (written : c ∈ digits n) : c.isDigit = true :=
  Nat.isDigit_of_mem_toDigits (by decide) (by decide) written

theorem digitValue_of_isDigit {c : Char} (digit : c.isDigit = true) :
    digitValue c = some (c.toNat - '0'.toNat) := by
  have bounds : '0' ≤ c ∧ c ≤ '9' := by
    simpa [Char.isDigit, Char.le_def] using digit
  simp [digitValue, bounds]

theorem isDigitOf_of_isDigit {c : Char} (digit : c.isDigit = true) : isDigitOf 10 c = true := by
  have bounds : 48 ≤ c.toNat ∧ c.toNat ≤ 57 := Char.isDigit_iff_toNat.mp digit
  simp [isDigitOf, digitValue_of_isDigit digit]
  omega

theorem valueOf_eq_ofDigitChars {text : List Char} (digits : ∀ c ∈ text, c.isDigit = true) :
    valueOf 10 text = Nat.ofDigitChars 10 text 0 := by
  rw [Nat.ofDigitChars_eq_foldl, valueOf]
  refine List.foldl_ext _ _ _ fun total c written => ?_
  simp [digitValue_of_isDigit (digits c written), Nat.mul_comm]

theorem readNat?_digits (n : Nat) : readNat? 10 (digits n) = some n := by
  have decimal : (digits n).all (isDigitOf 10) = true :=
    List.all_eq_true.mpr fun c written => isDigitOf_of_isDigit (isDigit_of_mem_digits written)
  have value : valueOf 10 (digits n) = n := by
    rw [valueOf_eq_ofDigitChars fun c written => isDigit_of_mem_digits written]
    exact Nat.ofDigitChars_ten_toDigits
  rw [readNat?, if_pos ⟨digits_ne_nil n, decimal⟩, value]

/-- A whole number is written in plain digits, however large it is. -/
theorem Scaled.text_ofInt (n : Int) : (ofInt n).text = intText n := by
  cases n <;> simp [ofInt, text, magnitudeText, mostTrailingZeros, intText, natText]

end QueryOptions.Decimal
