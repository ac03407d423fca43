import QueryOptions.Json.Node
import QueryOptions.Proofs.Decimal.Numerals

/-!
# Whole numbers in JSON texts

A whole number of 64 bits is read from its own digits, whatever follows them
that does not go on with the number.
-/

namespace QueryOptions

open Decimal

namespace Json

/-- Nothing follows with which a number would go on. -/
def NumberEnds (rest : List Char) : Prop :=
  ∀ c ∈ rest.head?, isDigit c = false ∧ c ≠ '.' ∧ c ≠ 'e' ∧ c ≠ 'E'

variable {n : Nat} {rest : List Char}

theorem spanDigits_append {text : List Char} (decimal : ∀ c ∈ text, isDigit c = true)
    (ends : NumberEnds rest) : spanDigits (text ++ rest) = (text, rest) := by
  rw [spanDigits, List.takeWhile_append_of_pos decimal, List.dropWhile_append_of_pos decimal]
  cases rest with
  | nil => simp
  | cons c rest =>
      have other : isDigit c = false := (ends c rfl).1
      simp [other]

theorem isDigit_of_mem_digits {c : Char} (written : c ∈ digits n) : isDigit c = true :=
  Decimal.isDigit_of_mem_digits written

theorem readWhole?_digits (n : Nat) (ends : NumberEnds rest) :
    readWhole? (digits n ++ rest) = some (digits n, rest) := by
  rw [readWhole?, spanDigits_append (fun c => isDigit_of_mem_digits) ends]
  split
  next same => exact absurd (congrArg Prod.fst same) (digits_ne_nil n)
  next second _ _ same =>
    have zero : n = 0 := by
      by_contra nonzero
      have first := congrArg (fun found => found.1.head?) same
      exact head?_digits_ne_zero (Nat.pos_of_ne_zero nonzero) first
    rw [zero] at same
    cases same
  next => rfl

theorem absorb_of_le {text : List Char} {value : Nat}
    (fits : Nat.ofDigitChars 10 text value ≤ greatestUnsigned) :
    absorb value text = (Nat.ofDigitChars 10 text value, text.length) := by
  induction text generalizing value with
  | nil => rfl
  | cons c rest inductionHypothesis =>
      have next : value * 10 + (c.toNat - '0'.toNat) = 10 * value + (c.toNat - '0'.toNat) := by
        rw [Nat.mul_comm]
      rw [Nat.ofDigitChars_cons] at fits ⊢
      have grows : 10 * value + (c.toNat - '0'.toNat) ≤
          Nat.ofDigitChars 10 rest (10 * value + (c.toNat - '0'.toNat)) := by
        rw [Nat.ofDigitChars_eq_ofDigitChars_zero]
        exact Nat.le_add_right_of_le (Nat.le_mul_of_pos_left _ (Nat.pow_pos (by decide)))
      simp only [absorb, next]
      rw [if_neg (by omega), inductionHypothesis fits]
      rfl

theorem absorb_digits (fits : n ≤ greatestUnsigned) :
    absorb 0 (digits n) = (n, (digits n).length) := by
  have value : Nat.ofDigitChars 10 (digits n) 0 = n := Nat.ofDigitChars_ten_toDigits
  rw [absorb_of_le (by rwa [value]), value]

theorem readPlaces?_of_ends (ends : NumberEnds rest) : readPlaces? rest = some ([], rest) := by
  unfold readPlaces?
  split
  next => exact absurd rfl (ends _ rfl).2.1
  next => rfl

theorem readExponent?_of_ends (ends : NumberEnds rest) :
    readExponent? rest = some (none, rest) := by
  cases rest with
  | nil => rfl
  | cons c rest =>
      obtain ⟨-, -, lower, upper⟩ := ends c rfl
      simp [readExponent?, lower, upper]

theorem head?_digits_append_ne_minus (n : Nat) (rest : List Char) :
    (digits n ++ rest).head? ≠ some '-' := by
  intro minus
  rw [List.head?_append_of_ne_nil _ (digits_ne_nil n)] at minus
  have digit := isDigit_of_mem_digits (List.mem_of_head? minus)
  cases digit

/-- The digits of a whole number of 64 bits, after a minus sign if it is negative, are read as
that number. -/
theorem Number.read?_intText {n : Int} (least : leastSigned ≤ n) (most : n ≤ greatestUnsigned)
    (ends : NumberEnds rest) :
    Number.read? ((intText n).toList ++ rest) = some (.whole n, rest) := by
  cases n with
  | ofNat m =>
      have fits : m ≤ greatestUnsigned := Int.ofNat_le.mp most
      have text : (intText (Int.ofNat m)).toList ++ rest = digits m ++ rest := by simp [intText]
      rw [text, Number.read?]
      · simp [readWhole?_digits m ends, absorb_digits fits, readPlaces?_of_ends ends,
          readExponent?_of_ends ends, ofWhole]
      · intro tail same
        exact head?_digits_append_ne_minus m rest (congrArg List.head? same)
  | negSucc m =>
      have fits : m + 1 ≤ greatestUnsigned := by
        unfold leastSigned at least
        unfold greatestUnsigned
        omega
      have within : ¬ (m + 1 = 0 ∨ -((m + 1 : Nat) : Int) < leastSigned) := by omega
      have negative : ofWhole true (m + 1) = .whole (Int.negSucc m) := if_neg within
      have text : (intText (Int.negSucc m)).toList ++ rest = '-' :: (digits (m + 1) ++ rest) := by
        simp [intText]
      rw [text, Number.read?]
      simp [readWhole?_digits (m + 1) ends, absorb_digits fits, readPlaces?_of_ends ends,
        readExponent?_of_ends ends, negative]

theorem exists_cons_intText (n : Int) :
    ∃ c tail, (intText n).toList = c :: tail ∧ (c = '-' ∨ isDigit c = true) := by
  cases n with
  | ofNat m =>
      obtain ⟨c, tail, written⟩ := List.exists_cons_of_ne_nil (digits_ne_nil m)
      have digit : isDigit c = true := isDigit_of_mem_digits (written ▸ List.mem_cons_self)
      exact ⟨c, tail, by simp [intText, written], .inr digit⟩
  | negSucc m => exact ⟨'-', digits (m + 1), by simp [intText], .inl rfl⟩

/-- Where a value is due, the digits of a whole number of 64 bits stand for that number. -/
theorem readNode_intText {n : Int} {text : List Char} (least : leastSigned ≤ n)
    (most : n ≤ greatestUnsigned) (ends : NumberEnds rest)
    (due : skipSpace text = (intText n).toList ++ rest) (fuel depth : Nat) :
    readNode (fuel + 1) depth text = (.number (.whole n), some rest) := by
  have read := Number.read?_intText least most ends
  obtain ⟨c, tail, written, first⟩ := exists_cons_intText n
  rw [written, List.cons_append] at due read
  have noOther : c ≠ 'n' ∧ c ≠ 't' ∧ c ≠ 'f' ∧ c ≠ '"' ∧ c ≠ '[' ∧ c ≠ '{' := by
    rcases first with rfl | digit
    · decide
    · refine ⟨?_, ?_, ?_, ?_, ?_, ?_⟩ <;>
        · rintro rfl
          cases digit
  rw [readNode, due]
  simp [noOther, read]

end Json

end QueryOptions
