import QueryOptions.Proofs.Params.Percent
import QueryOptions.Proofs.Text.Cutting
import QueryOptions.Url.Basic

/-!
# Escaping once more

The query of an address is escaped a second time, by rules of its own. As long
as the characters of escapes are left alone, that changes nothing of what the
text stands for: escapes that were there before are undone as before, and those
that are new give the characters back.
-/

namespace QueryOptions.Url

open Percent

/-- Of what escapes and pairs of keys and values are made is left as it is. -/
def KeepsPairs (escaped : Char → Bool) : Prop :=
  ∀ c, escaped c = true → c ∉ ['%', '&', '='] ∧ Decimal.isDigitOf 16 c = false

namespace KeepsPairs

variable {escaped : Char → Bool} {c : Char}

theorem sign (keeps : KeepsPairs escaped) (listed : c ∈ ['%', '&', '=']) : escaped c = false := by
  by_contra hidden
  exact (keeps c (Bool.of_not_eq_false hidden)).1 listed

theorem digit (keeps : KeepsPairs escaped) (digit : Decimal.isDigitOf 16 c = true) :
    escaped c = false := by
  by_contra hidden
  rw [(keeps c (Bool.of_not_eq_false hidden)).2] at digit
  cases digit

end KeepsPairs

/-- A text that does not go on an escape whose `%` stands before it. -/
def StartsPlainly (text : List Char) : Prop :=
  ∀ high low rest, text = high :: low :: rest → Decimal.readNat? 16 [high, low] = none

theorem readNat?_eq_some {high low : Char} {value : Nat}
    (read : Decimal.readNat? 16 [high, low] = some value) :
    Decimal.isDigitOf 16 high = true ∧ Decimal.isDigitOf 16 low = true := by
  unfold Decimal.readNat? at read
  split at read
  next digits => simpa using digits.2
  next => cases read

theorem readNat?_percent_left (low : Char) : Decimal.readNat? 16 ['%', low] = none := by
  have percent : Decimal.isDigitOf 16 '%' = false := by decide
  simp [Decimal.readNat?, percent]

theorem readNat?_percent_right (high : Char) : Decimal.readNat? 16 [high, '%'] = none := by
  have percent : Decimal.isDigitOf 16 '%' = false := by decide
  simp [Decimal.readNat?, percent]

theorem unescape_percent {text : List Char} (plain : StartsPlainly text) :
    unescape ('%' :: text) = 37 :: unescape text := by
  match text with
  | [] => rfl
  | [c] => rfl
  | high :: low :: rest => rw [unescape, plain high low rest rfl]

theorem escapeWhere_cons (escaped : Char → Bool) (c : Char) (rest : List Char) :
    escapeWhere escaped (c :: rest) =
      (if escaped c then (String.utf8EncodeChar c).flatMap escape else [c]) ++
        escapeWhere escaped rest := rfl

theorem escapeWhere_cons_of_kept {escaped : Char → Bool} {c : Char} (kept : escaped c = false)
    (rest : List Char) : escapeWhere escaped (c :: rest) = c :: escapeWhere escaped rest := by
  simp [escapeWhere_cons, kept]

theorem escapeWhere_cons_cases (escaped : Char → Bool) (c : Char) (rest : List Char) :
    (∃ shown, escapeWhere escaped (c :: rest) = '%' :: shown) ∨
      escapeWhere escaped (c :: rest) = c :: escapeWhere escaped rest := by
  by_cases hidden : escaped c = true
  · rcases bytes : String.utf8EncodeChar c with _ | ⟨byte, others⟩
    · have length := String.length_utf8EncodeChar c
      have positive := c.utf8Size_pos
      rw [bytes, List.length_nil] at length
      omega
    · rw [escapeWhere_cons, if_pos hidden, bytes]
      exact .inl ⟨_, rfl⟩
  · exact .inr (escapeWhere_cons_of_kept (Bool.of_not_eq_true hidden) rest)

theorem StartsPlainly.escapeWhere {text : List Char} (plain : StartsPlainly text)
    (escaped : Char → Bool) : StartsPlainly (escapeWhere escaped text) := by
  intro high low rest starts
  cases text with
  | nil => cases starts
  | cons first text =>
      rcases escapeWhere_cons_cases escaped first text with ⟨shown, percent⟩ | kept
      · rw [percent] at starts
        rw [← (List.cons.inj starts).1]
        exact readNat?_percent_left low
      · rw [kept] at starts
        obtain ⟨sameHigh, starts⟩ := List.cons.inj starts
        cases text with
        | nil => cases starts
        | cons second text =>
            rcases escapeWhere_cons_cases escaped second text with ⟨shown, percent⟩ | kept
            · rw [percent] at starts
              rw [← (List.cons.inj starts).1]
              exact readNat?_percent_right high
            · rw [kept] at starts
              rw [← sameHigh, ← (List.cons.inj starts).1]
              exact plain first second text rfl

theorem unescape_flatMap_escape_append (bytes : List UInt8) (rest : List Char) :
    unescape (bytes.flatMap escape ++ rest) = bytes ++ unescape rest := by
  induction bytes with
  | nil => rfl
  | cons byte bytes inductionHypothesis =>
      rw [List.flatMap_cons, List.append_assoc, unescape_escape_append, inductionHypothesis]
      rfl

theorem unescape_escapeWhere {escaped : Char → Bool} (keeps : KeepsPairs escaped)
    (text : List Char) : unescape (escapeWhere escaped text) = unescape text := by
  have percent : escaped '%' = false := keeps.sign (by decide)
  fun_induction unescape text with
  | case1 high low rest byte read inductionHypothesis =>
      obtain ⟨highDigit, lowDigit⟩ := readNat?_eq_some read
      rw [escapeWhere_cons_of_kept percent, escapeWhere_cons_of_kept (keeps.digit highDigit),
        escapeWhere_cons_of_kept (keeps.digit lowDigit), unescape, read, inductionHypothesis]
  | case2 high low rest unread inductionHypothesis =>
      have plain : StartsPlainly (high :: low :: rest) := by
        rintro _ _ _ ⟨⟩
        exact unread
      rw [escapeWhere_cons_of_kept percent, unescape_percent (plain.escapeWhere escaped),
        inductionHypothesis]
  | case3 c rest short inductionHypothesis =>
      by_cases hidden : escaped c = true
      · rw [escapeWhere_cons, if_pos hidden, unescape_flatMap_escape_append, inductionHypothesis]
      · rw [escapeWhere_cons_of_kept (Bool.of_not_eq_true hidden)]
        by_cases sign : c = '%'
        · -- Too little follows for an escape, and escaping adds nothing that could go on one.
          have plain : StartsPlainly rest := by
            rintro high low others rfl
            exact absurd rfl (short high low others sign)
          rw [sign, unescape_percent (plain.escapeWhere escaped), inductionHypothesis]
          rfl
        · rw [unescape_cons_of_ne sign, inductionHypothesis]
  | case4 => rfl

theorem decodeComponent?_escapeWhere {escaped : Char → Bool} (keeps : KeepsPairs escaped)
    (component : List Char) :
    decodeComponent? (escapeWhere escaped component) = decodeComponent? component := by
  rw [decodeComponent?, unescape_escapeWhere keeps, decodeComponent?]

theorem mem_escapeCharacters {byte : UInt8} {c : Char} (written : c ∈ escape byte) :
    c ∈ escapeCharacters := by
  obtain ⟨highLess, lowLess⟩ := digits_less byte
  rw [escape, List.mem_cons, List.mem_cons, List.mem_singleton] at written
  rcases written with rfl | rfl | rfl
  · decide
  · exact hexDigit_mem _ highLess
  · exact hexDigit_mem _ lowLess

theorem keeps_separator {escaped : Char → Bool} {separator : Char}
    (kept : escaped separator = false) (noEscape : separator ∉ escapeCharacters) :
    Text.Keeps separator fun c =>
      if escaped c then (String.utf8EncodeChar c).flatMap escape else [c] where
  separator_eq := by simp [kept]
  other c differs written := by
    split at written
    · obtain ⟨byte, -, inside⟩ := List.mem_flatMap.mp written
      exact noEscape (mem_escapeCharacters inside)
    · exact differs (List.mem_singleton.mp written).symm

theorem toNat_lt_of_isDigitOf {base : Nat} {c : Char} (digit : Decimal.isDigitOf base c = true) :
    c.toNat < 128 := by
  by_contra high
  have beyond : ∀ d : Char, d.toNat < 128 → ¬ c ≤ d := by
    intro d ascii atMost
    have : c.toNat ≤ d.toNat := UInt32.le_iff_toNat_le.mp (Char.le_def.mp atMost)
    omega
  simp [Decimal.isDigitOf, Decimal.digitValue, beyond '9' (by decide), beyond 'f' (by decide),
    beyond 'F' (by decide)] at digit

theorem not_escapedInQuery_of_digit : ∀ special, ∀ n < 128,
    Decimal.isDigitOf 16 (Char.ofNat n) = true →
      escapedInQuery special (Char.ofNat n) = false := by decide

theorem not_escapedInQuery_of_sign {c : Char} (sign : c ∈ ['%', '&', '=']) (special : Bool) :
    escapedInQuery special c = false := by
  simp only [List.mem_cons, List.not_mem_nil, or_false] at sign
  rcases sign with rfl | rfl | rfl <;> cases special <;> decide

theorem keepsPairs_escapedInQuery (special : Bool) : KeepsPairs (escapedInQuery special) := by
  intro c escaped
  constructor
  · intro sign
    rw [not_escapedInQuery_of_sign sign special] at escaped
    cases escaped
  · by_contra digit
    have digit : Decimal.isDigitOf 16 c = true := Bool.of_not_eq_false digit
    have kept := not_escapedInQuery_of_digit special c.toNat (toNat_lt_of_isDigitOf digit)
    rw [Char.ofNat_toNat] at kept
    rw [kept digit] at escaped
    cases escaped

end QueryOptions.Url
