import Mathlib.Algebra.Group.Nat.Defs
import QueryOptions.Proofs.Decimal.Numerals

/-!
# Numerals of a fixed width

A number in a given count of digits has one spelling, which is its numeral with
zeros in front. Spellings of one width are ordered like the numbers, character
by character.
-/

namespace QueryOptions.Decimal

theorem digitValue_lt {c : Char} (digit : c.isDigit = true) : c.toNat - '0'.toNat < 10 := by
  have bounds : 48 ≤ c.toNat ∧ c.toNat ≤ 57 := Char.isDigit_iff_toNat.mp digit
  change c.toNat - 48 < 10
  omega

theorem digit_injective {c d : Char} (first : c.isDigit = true) (second : d.isDigit = true)
    (same : c.toNat - '0'.toNat = d.toNat - '0'.toNat) : c = d := by
  have firstBounds : 48 ≤ c.toNat ∧ c.toNat ≤ 57 := Char.isDigit_iff_toNat.mp first
  have secondBounds : 48 ≤ d.toNat ∧ d.toNat ≤ 57 := Char.isDigit_iff_toNat.mp second
  have equal : c.toNat - 48 = d.toNat - 48 := same
  exact Char.toNat_inj.mp (by omega)

theorem lt_of_digit_lt {c d : Char} (lt : c.toNat - '0'.toNat < d.toNat - '0'.toNat) : c < d := by
  have less : c.toNat - 48 < d.toNat - 48 := lt
  exact UInt32.lt_iff_toNat_lt.mpr (show c.toNat < d.toNat by omega)

theorem valueOf_cons {c : Char} {text : List Char} (digits : ∀ d ∈ c :: text, d.isDigit = true) :
    valueOf 10 (c :: text) = (c.toNat - '0'.toNat) * 10 ^ text.length + valueOf 10 text := by
  have rest : ∀ d ∈ text, d.isDigit = true := fun d written => digits d (.tail c written)
  rw [valueOf_eq_ofDigitChars digits, valueOf_eq_ofDigitChars rest, Nat.ofDigitChars_cons,
    Nat.ofDigitChars_eq_ofDigitChars_zero, Nat.mul_zero, Nat.zero_add, Nat.mul_comm]

theorem valueOf_lt {text : List Char} (digits : ∀ c ∈ text, c.isDigit = true) :
    valueOf 10 text < 10 ^ text.length := by
  induction text with
  | nil => decide
  | cons c text inductionHypothesis =>
      have rest := inductionHypothesis fun d written => digits d (.tail c written)
      have first := digitValue_lt (digits c List.mem_cons_self)
      have whole : (c.toNat - '0'.toNat + 1) * 10 ^ text.length ≤ 10 * 10 ^ text.length :=
        Nat.mul_le_mul_right _ first
      rw [valueOf_cons digits, List.length_cons, Nat.pow_succ]
      rw [Nat.add_mul, Nat.one_mul] at whole
      omega

/-- A text is the spelling of a number in a given count of digits. -/
structure Spells (text : List Char) (width n : Nat) : Prop where
  digits : ∀ c ∈ text, c.isDigit = true
  length : text.length = width
  value : valueOf 10 text = n

theorem spells_self {text : List Char} (digits : ∀ c ∈ text, c.isDigit = true) :
    Spells text text.length (valueOf 10 text) :=
  ⟨digits, rfl, rfl⟩

theorem spells_padLeft {width n : Nat} (positive : 0 < width) (fits : n < 10 ^ width) :
    Spells (padLeft width '0' (digits n)) width n := by
  have short : (digits n).length ≤ width :=
    (Nat.length_toDigits_le_iff (by decide) positive).mpr fits
  have all : ∀ c ∈ padLeft width '0' (digits n), c.isDigit = true := by
    intro c written
    rcases List.mem_append.mp written with zero | digit
    · rw [List.eq_of_mem_replicate zero]
      rfl
    · exact isDigit_of_mem_digits digit
  refine ⟨all, ?_, ?_⟩
  · rw [padLeft, List.length_append, List.length_replicate]
    omega
  · rw [valueOf_eq_ofDigitChars all, padLeft, Nat.ofDigitChars_append,
      Nat.ofDigitChars_replicate_zero, Nat.mul_zero]
    exact Nat.ofDigitChars_ten_toDigits

namespace Spells

variable {text other : List Char} {width m n : Nat}

/-- A higher digit outweighs everything behind it. -/
theorem place_value {a b u v power : Nat} (below : v < power)
    (le : a * power + u ≤ b * power + v) : a < b ∨ a = b ∧ u ≤ v := by
  rcases Nat.lt_trichotomy a b with less | same | greater
  · exact .inl less
  · subst same
    exact .inr ⟨rfl, by omega⟩
  · have carried : (b + 1) * power ≤ a * power := Nat.mul_le_mul_right power greater
    rw [Nat.add_mul] at carried
    omega

theorem eq_or_lt_of_le (first : Spells text width m) (second : Spells other width n)
    (le : m ≤ n) : text = other ∨ text < other ∧ m < n := by
  obtain ⟨digits, length, rfl⟩ := first
  obtain ⟨otherDigits, otherLength, rfl⟩ := second
  induction text generalizing other width with
  | nil => exact .inl (List.eq_nil_of_length_eq_zero (otherLength.trans length.symm)).symm
  | cons c text inductionHypothesis =>
      cases other with
      | nil => simp [← length] at otherLength
      | cons d other =>
          have sameLength : other.length = text.length :=
            Nat.succ_inj.mp (otherLength.trans length.symm)
          have rest : ∀ e ∈ text, e.isDigit = true := fun e written => digits e (.tail c written)
          have otherRest : ∀ e ∈ other, e.isDigit = true :=
            fun e written => otherDigits e (.tail d written)
          have restBelow := valueOf_lt rest
          have otherBelow := valueOf_lt otherRest
          have firstDigit := digits c List.mem_cons_self
          have secondDigit := otherDigits d List.mem_cons_self
          rw [valueOf_cons digits, valueOf_cons otherDigits, sameLength] at le ⊢
          rw [sameLength] at otherBelow
          rcases place_value otherBelow le with lower | ⟨same, restLe⟩
          · have carried := Nat.mul_le_mul_right (10 ^ text.length) lower
            rw [Nat.succ_mul] at carried
            exact .inr ⟨List.cons_lt_cons_iff.mpr (.inl (lt_of_digit_lt lower)), by omega⟩
          · obtain rfl := digit_injective firstDigit secondDigit same
            rcases inductionHypothesis rest rfl otherRest sameLength restLe with equal | ⟨lt, less⟩
            · exact .inl (by rw [equal])
            · exact .inr ⟨List.cons_lt_cons_iff.mpr (.inr ⟨rfl, lt⟩), by omega⟩

theorem lt (first : Spells text width m) (second : Spells other width n) (less : m < n) :
    text < other := by
  rcases first.eq_or_lt_of_le second (Nat.le_of_lt less) with rfl | ⟨lt, -⟩
  · have same := first.value.symm.trans second.value
    omega
  · exact lt

theorem unique (first : Spells text width n) (second : Spells other width n) : text = other := by
  rcases first.eq_or_lt_of_le second (Nat.le_refl n) with same | ⟨-, less⟩
  · exact same
  · exact absurd less (Nat.lt_irrefl n)

end Spells

/-- Digits are the numeral of their value with zeros in front. -/
theorem padLeft_valueOf {text : List Char} (digits : ∀ c ∈ text, c.isDigit = true)
    (filled : text ≠ []) : padLeft text.length '0' (Decimal.digits (valueOf 10 text)) = text :=
  (spells_padLeft (List.length_pos_of_ne_nil filled) (valueOf_lt digits)).unique (spells_self digits)

end QueryOptions.Decimal
