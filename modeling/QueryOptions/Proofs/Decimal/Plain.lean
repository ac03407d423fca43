import Mathlib.Data.List.TakeWhile
import QueryOptions.Proofs.Decimal.Padded

/-!
# Decimals in plain notation

A decimal in plain notation is read with all its places, and it is shown as it
was written, with two exceptions. Zero loses its places, and a number with more
than five zeros between the point and its first digit gets an exponent.
-/

namespace QueryOptions

namespace Decimal

theorem ne_of_isDigit {c d : Char} (digit : c.isDigit = true) (other : d.isDigit = false) :
    c ≠ d := by
  rintro rfl
  exact absurd digit (by simp [other])

theorem readNat?_of_digits {text : List Char} (digits : ∀ c ∈ text, c.isDigit = true)
    (filled : text ≠ []) : readNat? 10 text = some (valueOf 10 text) := by
  have decimal : text.all (isDigitOf 10) = true :=
    List.all_eq_true.mpr fun c written => isDigitOf_of_isDigit (digits c written)
  rw [readNat?, if_pos ⟨filled, decimal⟩]

theorem filter_underscore {text : List Char} (digits : ∀ c ∈ text, c.isDigit = true) :
    text.filter (· ≠ '_') = text :=
  List.filter_eq_self.mpr fun c written => by simpa using ne_of_isDigit (digits c written) rfl

namespace Scaled

theorem splitFirst_of_absent {p : Char → Bool} {text : List Char}
    (absent : ∀ c ∈ text, p c = false) : splitFirst p text = (text, none) := by
  have passed : text.dropWhile (fun c => !p c) = [] :=
    List.dropWhile_eq_nil_iff.mpr fun c written => by simp [absent c written]
  rw [splitFirst, passed]

theorem splitFirst_at {p : Char → Bool} {before rest : List Char} {mark : Char}
    (absent : ∀ c ∈ before, p c = false) (found : p mark = true) :
    splitFirst p (before ++ mark :: rest) = (before, some rest) := by
  have passes : ∀ c ∈ before, (!p c) = true := fun c written => by simp [absent c written]
  have stopped : (before ++ mark :: rest).dropWhile (fun c => !p c) = mark :: rest := by
    rw [List.dropWhile_append_of_pos passes]
    simp [found]
  have taken : (before ++ mark :: rest).takeWhile (fun c => !p c) = before := by
    rw [List.takeWhile_append_of_pos passes]
    simp [found]
  rw [splitFirst, stopped, taken]

end Scaled

/-! ## Zeros in front -/

theorem dropWhile_zero_digits {n : Nat} (positive : 0 < n) :
    (digits n).dropWhile (· = '0') = digits n := by
  have first := head?_digits_ne_zero positive
  cases written : digits n with
  | nil => rfl
  | cons c text =>
      rw [written] at first
      exact List.dropWhile_cons_of_neg (by simpa using first)

theorem exists_zeros {text : List Char} (digits : ∀ c ∈ text, c.isDigit = true)
    (filled : text ≠ []) :
    text = List.replicate (text.length - (Decimal.digits (valueOf 10 text)).length) '0' ++
      Decimal.digits (valueOf 10 text) :=
  (padLeft_valueOf digits filled).symm

theorem dropWhile_zero_of_pos {text : List Char} (digits : ∀ c ∈ text, c.isDigit = true)
    (positive : 0 < valueOf 10 text) :
    text.dropWhile (· = '0') = Decimal.digits (valueOf 10 text) := by
  have filled : text ≠ [] := by
    rintro rfl
    exact absurd positive (by decide)
  have zeros (count : Nat) : ∀ c ∈ List.replicate count '0', decide (c = '0') = true :=
    fun c written => by simpa using List.eq_of_mem_replicate written
  conv_lhs => rw [exists_zeros digits filled]
  rw [List.dropWhile_append_of_pos (zeros _), dropWhile_zero_digits positive]

theorem eq_zero_of_valueOf {text : List Char} (digits : ∀ c ∈ text, c.isDigit = true)
    (zero : valueOf 10 text = 0) : ∀ c ∈ text, c = '0' := by
  intro c written
  rw [exists_zeros digits (List.ne_nil_of_mem written), zero] at written
  rcases List.mem_append.mp written with inFront | last
  · exact List.eq_of_mem_replicate inFront
  · simpa [Decimal.digits] using last

theorem valueOf_eq_zero_iff {text : List Char} (digits : ∀ c ∈ text, c.isDigit = true) :
    valueOf 10 text = 0 ↔ text.dropWhile (· = '0') = [] := by
  constructor
  · intro zero
    exact List.dropWhile_eq_nil_iff.mpr fun c written =>
      decide_eq_true (eq_zero_of_valueOf digits zero c written)
  · intro none
    by_contra other
    have shown := dropWhile_zero_of_pos digits (Nat.pos_of_ne_zero other)
    rw [none] at shown
    exact digits_ne_nil _ shown.symm

/-! ## Plain notation -/

/-- A decimal number in plain notation. -/
structure Plain where
  negative : Bool
  whole : List Char
  /-- The digits after the point, if there is one. -/
  places : Option (List Char)
  whole_digits : ∀ c ∈ whole, c.isDigit = true
  whole_ne_nil : whole ≠ []
  /-- The whole part begins with a zero only if it is zero. -/
  whole_lead : whole.head? = some '0' → whole = ['0']
  places_digits : ∀ fraction, places = some fraction →
    fraction ≠ [] ∧ ∀ c ∈ fraction, c.isDigit = true
  /-- Only a number other than zero has a sign. -/
  signed : negative = true → ∃ c ∈ whole ++ places.getD [], c ≠ '0'

namespace Plain

/-- A number below one, without a sign. -/
def belowOne (fraction : List Char) (filled : fraction ≠ [])
    (digits : fraction.all Char.isDigit = true) : Plain where
  negative := false
  whole := ['0']
  places := some fraction
  whole_digits := List.all_eq_true.mp rfl
  whole_ne_nil := List.cons_ne_nil _ _
  whole_lead := fun _ => rfl
  places_digits := by
    rintro _ ⟨⟩
    exact ⟨filled, List.all_eq_true.mp digits⟩
  signed := fun negative => by cases negative

def sign (p : Plain) : List Char := if p.negative then ['-'] else []

def fraction (p : Plain) : List Char := p.places.getD []

/-- The number without its sign. -/
def magnitude (p : Plain) : List Char :=
  match p.places with
  | none => p.whole
  | some fraction => p.whole ++ '.' :: fraction

def text (p : Plain) : List Char := p.sign ++ p.magnitude

def digits (p : Plain) : List Char := p.whole ++ p.fraction

/-- The digits from the first one on that is not zero. -/
def significant (p : Plain) : List Char := p.digits.dropWhile (· = '0')

/-- How many zeros stand right after the point. -/
def leadingZeros (p : Plain) : Nat := (p.fraction.takeWhile (· = '0')).length

variable (p : Plain)

theorem isDigit_of_mem_fraction : ∀ c ∈ p.fraction, c.isDigit = true := by
  intro c written
  cases places : p.places with
  | none => simp [fraction, places] at written
  | some fraction =>
      rw [Plain.fraction, places] at written
      exact (p.places_digits fraction places).2 c written

theorem isDigit_of_mem_digits : ∀ c ∈ p.digits, c.isDigit = true := by
  intro c written
  rcases List.mem_append.mp written with before | behind
  · exact p.whole_digits c before
  · exact p.isDigit_of_mem_fraction c behind

theorem digits_ne_nil : p.digits ≠ [] := List.append_ne_nil_of_left_ne_nil p.whole_ne_nil _

theorem fraction_eq_nil_iff : p.fraction = [] ↔ p.places = none := by
  cases places : p.places with
  | none => simp [fraction, places]
  | some fraction => simpa [Plain.fraction, places] using (p.places_digits fraction places).1

theorem magnitude_eq :
    p.magnitude = if p.fraction = [] then p.whole else p.whole ++ '.' :: p.fraction := by
  cases places : p.places with
  | none => simp [magnitude, fraction, places]
  | some fraction =>
      have filled := (p.places_digits fraction places).1
      simp [magnitude, Plain.fraction, places, filled]

theorem mem_text : ∀ c ∈ p.text, c = '-' ∨ c = '.' ∨ c.isDigit = true := by
  intro c written
  have whole := p.whole_digits c
  have behind := p.isDigit_of_mem_fraction c
  rw [text, sign, magnitude_eq] at written
  split at written <;> split at written <;> simp at written <;> tauto

theorem not_mem_text {c : Char} (other : c ≠ '-' ∧ c ≠ '.' ∧ c.isDigit = false) : c ∉ p.text := by
  intro written
  have among := p.mem_text c written
  simp_all

theorem read?_text :
    Scaled.read? p.text =
      some (.make (if p.negative then -(valueOf 10 p.digits : Int) else valueOf 10 p.digits)
        p.fraction.length) := by
  have exponent : Scaled.splitFirst (fun c => c = 'e' || c = 'E') p.text = (p.text, none) := by
    refine Scaled.splitFirst_of_absent fun c written => ?_
    have small : c ≠ 'e' := by
      rintro rfl
      exact p.not_mem_text (by decide) written
    have capital : c ≠ 'E' := by
      rintro rfl
      exact p.not_mem_text (by decide) written
    simp [small, capital]
  have noPoint : ∀ c ∈ p.sign ++ p.whole, decide (c = '.') = false := by
    intro c written
    rw [sign] at written
    rcases List.mem_append.mp written with minus | digit
    · split at minus <;> simp_all
    · simpa using ne_of_isDigit (p.whole_digits c digit) rfl
  have point : Scaled.splitFirst (fun c => c = '.') p.text = (p.sign ++ p.whole, p.places) := by
    rw [text, magnitude]
    cases p.places with
    | none => exact Scaled.splitFirst_of_absent noPoint
    | some fraction =>
        rw [← List.append_assoc]
        exact Scaled.splitFirst_at noPoint rfl
  have value : readNat? 10 (p.whole ++ p.fraction) = some (valueOf 10 p.digits) :=
    readNat?_of_digits p.isDigit_of_mem_digits p.digits_ne_nil
  have wholeKept := filter_underscore p.whole_digits
  have placesKept := filter_underscore p.isDigit_of_mem_fraction
  have fraction : (p.places.getD []).filter (· ≠ '_') = p.fraction := placesKept
  rw [Scaled.read?, exponent]
  simp only [point, fraction, Option.bind_eq_bind, Option.bind_some, Int.sub_zero]
  have lead (c : Char) (other : c.isDigit = false) (rest : List Char) : p.whole ≠ c :: rest :=
    fun whole => ne_of_isDigit (p.whole_digits c (by simp [whole])) other rfl
  cases negative : p.negative with
  | true =>
      rw [sign, negative]
      simp only [if_true, List.cons_append, List.nil_append, wholeKept, value, Option.bind_some]
  | false =>
      rw [sign, negative]
      simp only [Bool.false_eq_true, if_false, List.nil_append]
      split
      next rest minus => exact absurd minus (lead '-' rfl rest)
      next rest plus => exact absurd plus (lead '+' rfl rest)
      next => simp only [wholeKept, value, Option.bind_some, Bool.false_eq_true, if_false]

/-! ## Showing what was read -/

theorem significant_eq_nil_iff : p.significant = [] ↔ valueOf 10 p.digits = 0 :=
  (valueOf_eq_zero_iff p.isDigit_of_mem_digits).symm

theorem digits_valueOf (positive : 0 < valueOf 10 p.digits) :
    Decimal.digits (valueOf 10 p.digits) = p.significant :=
  (dropWhile_zero_of_pos p.isDigit_of_mem_digits positive).symm

theorem significant_of_whole (other : p.whole ≠ ['0']) : p.significant = p.digits := by
  obtain ⟨c, rest, whole⟩ := List.exists_cons_of_ne_nil p.whole_ne_nil
  have lead : c ≠ '0' := by
    rintro rfl
    exact other (p.whole_lead (by simp [whole]))
  simp [significant, digits, whole, lead]

theorem leadingZeros_add_length (zero : p.whole = ['0']) :
    p.leadingZeros + p.significant.length = p.fraction.length := by
  have parts := congrArg List.length (@List.takeWhile_append_dropWhile _ (· = '0') p.fraction)
  rw [List.length_append] at parts
  simpa [leadingZeros, significant, digits, zero] using parts

theorem padLeft_significant (positive : 0 < valueOf 10 p.digits) :
    padLeft (p.fraction.length + 1) '0' p.significant = p.digits := by
  by_cases zero : p.whole = ['0']
  · have width : p.digits.length = p.fraction.length + 1 := by simp [digits, zero]
    rw [← p.digits_valueOf positive, ← width]
    exact padLeft_valueOf p.isDigit_of_mem_digits p.digits_ne_nil
  · have filled := List.length_pos_of_ne_nil p.whole_ne_nil
    have wide : p.fraction.length + 1 - p.digits.length = 0 := by
      rw [digits, List.length_append]
      omega
    rw [p.significant_of_whole zero, padLeft, wide]
    rfl

theorem magnitudeText_of_tiny {first : Char} {rest : List Char}
    (shown : p.significant = first :: rest) (zero : p.whole = ['0']) (tiny : 5 < p.leadingZeros) :
    Scaled.magnitudeText p.significant p.fraction.length =
      first :: (if rest = [] then [] else '.' :: rest) ++
        'E' :: '-' :: Decimal.digits (p.leadingZeros + 1) := by
  have parts := p.leadingZeros_add_length zero
  have exponent : p.fraction.length - p.significant.length + 1 = p.leadingZeros + 1 := by omega
  rw [Scaled.magnitudeText, if_pos (by unfold Scaled.mostLeadingZeros; omega), Int.toNat_natCast]
  unfold Scaled.scientific
  rw [exponent, shown]
  cases rest <;> simp

theorem magnitudeText_of_not_tiny (positive : 0 < valueOf 10 p.digits)
    (plain : p.whole = ['0'] → p.leadingZeros ≤ 5) :
    Scaled.magnitudeText p.significant p.fraction.length = p.magnitude := by
  have short : ¬ (0 < (p.fraction.length : Int) ∧
      Scaled.mostLeadingZeros < p.fraction.length - p.significant.length) := by
    unfold Scaled.mostLeadingZeros
    by_cases zero : p.whole = ['0']
    · have parts := p.leadingZeros_add_length zero
      have few := plain zero
      omega
    · rw [p.significant_of_whole zero, digits, List.length_append]
      omega
  rw [Scaled.magnitudeText, if_neg short, if_neg (by unfold Scaled.mostTrailingZeros; omega),
    magnitude_eq]
  by_cases noPlaces : p.fraction = []
  · have all : p.digits = p.whole := by simp [digits, noPlaces]
    have other : p.whole ≠ ['0'] := by
      intro zero
      rw [all, zero] at positive
      exact absurd positive (by decide)
    simp [noPlaces, p.significant_of_whole other, all]
  · have filled := List.length_pos_of_ne_nil noPlaces
    have whole : (p.whole ++ p.fraction).length - p.fraction.length = p.whole.length := by
      rw [List.length_append]
      omega
    rw [if_neg (by omega), if_neg noPlaces, Int.toNat_natCast, Scaled.pointed,
      p.padLeft_significant positive]
    simp only [whole, if_neg (Nat.ne_of_gt filled), digits, List.take_left, List.drop_left]

theorem sign_of_zero (zero : valueOf 10 p.digits = 0) : p.negative = false := by
  by_contra negative
  obtain ⟨c, written, other⟩ := p.signed (Bool.of_not_eq_false negative)
  exact other (eq_zero_of_valueOf p.isDigit_of_mem_digits zero c written)

/-- What was read is shown as zero or with its sign, its digits and its number of places. -/
theorem text_read :
    (Scaled.make (if p.negative then -(valueOf 10 p.digits : Int) else valueOf 10 p.digits)
        p.fraction.length).text.toList =
      if p.significant = [] then ['0']
      else p.sign ++ Scaled.magnitudeText p.significant p.fraction.length := by
  by_cases none : p.significant = []
  · have zero := p.significant_eq_nil_iff.mp none
    have made : Scaled.make (if false then -((0 : Nat) : Int) else (0 : Nat)) p.fraction.length =
        ⟨0, 0⟩ := if_pos rfl
    rw [if_pos none, p.sign_of_zero zero, zero, made]
    decide
  · have other : valueOf 10 p.digits ≠ 0 := fun zero => none (p.significant_eq_nil_iff.mpr zero)
    have positive := Nat.pos_of_ne_zero other
    have unsigned : ¬ (valueOf 10 p.digits : Int) < 0 := Int.not_lt.mpr (Int.natCast_nonneg _)
    rw [if_neg none, ← p.digits_valueOf positive]
    cases negative : p.negative with
    | false => simp [Scaled.make, Scaled.text, sign, negative, other, unsigned]
    | true => simp [Scaled.make, Scaled.text, sign, negative, other, positive]

theorem leadingZeros_of_no_places (none : p.places = none) : p.leadingZeros = 0 := by
  simp [leadingZeros, p.fraction_eq_nil_iff.mpr none]

theorem text_eq_zero_iff (zero : p.significant = []) : ['0'] = p.text ↔ p.places = none := by
  have value := p.significant_eq_nil_iff.mp zero
  constructor
  · intro same
    by_contra places
    have point : '.' ∈ p.text := by
      rw [text, magnitude_eq, if_neg fun none => places (p.fraction_eq_nil_iff.mp none)]
      simp
    rw [← same] at point
    exact absurd point (by decide)
  · intro none
    obtain ⟨c, rest, whole⟩ := List.exists_cons_of_ne_nil p.whole_ne_nil
    have first : c = '0' :=
      eq_zero_of_valueOf p.isDigit_of_mem_digits value c (by simp [digits, whole])
    have alone := p.whole_lead (by rw [whole, first]; rfl)
    rw [text, sign, p.sign_of_zero value, magnitude_eq,
      if_pos (p.fraction_eq_nil_iff.mpr none), alone]
    rfl

theorem magnitudeText_eq_iff (positive : 0 < valueOf 10 p.digits) :
    p.sign ++ Scaled.magnitudeText p.significant p.fraction.length = p.text ↔
      p.whole ≠ ['0'] ∨ p.leadingZeros ≤ 5 := by
  by_cases tiny : p.whole = ['0'] ∧ 5 < p.leadingZeros
  · have filled : p.significant ≠ [] := fun none =>
      Nat.ne_of_gt positive (p.significant_eq_nil_iff.mp none)
    obtain ⟨first, rest, shown⟩ := List.exists_cons_of_ne_nil filled
    rw [p.magnitudeText_of_tiny shown tiny.1 tiny.2]
    refine iff_of_false (fun same => ?_) (by simp [tiny])
    exact p.not_mem_text (by decide : 'E' ≠ '-' ∧ 'E' ≠ '.' ∧ 'E'.isDigit = false)
      (by simp [← same])
  · have plain : p.whole = ['0'] → p.leadingZeros ≤ 5 := fun zero =>
      Nat.le_of_not_lt fun many => tiny ⟨zero, many⟩
    rw [p.magnitudeText_of_not_tiny positive plain]
    exact iff_of_true rfl (Decidable.not_or_of_imp plain)

end Plain

end Decimal

open Decimal

/-- Every decimal in plain notation is read. It is shown as it was written exactly if it has no
point, or if it is not zero and has at most five zeros between the point and its first digit.
Otherwise zero loses its places, and any other number gets an exponent. -/
theorem Literal.plain_decimal_shown (p : Plain) :
    ∃ d, Scaled.read? p.text = some d ∧
      ((number d).render.toList = p.text ↔
        p.places = none ∨ p.significant ≠ [] ∧ (p.whole ≠ ['0'] ∨ p.leadingZeros ≤ 5)) ∧
      (p.significant = [] → (number d).render = "0") ∧
      ∀ first rest, p.significant = first :: rest → p.whole = ['0'] → 5 < p.leadingZeros →
        (number d).render.toList =
          p.sign ++ (first :: (if rest = [] then [] else '.' :: rest) ++
            'E' :: '-' :: digits (p.leadingZeros + 1)) := by
  refine ⟨_, p.read?_text, ?_, ?_, ?_⟩
  · rw [render, p.text_read]
    by_cases zero : p.significant = []
    · simp [zero, p.text_eq_zero_iff zero]
    · have positive := Nat.pos_of_ne_zero fun value => zero (p.significant_eq_nil_iff.mpr value)
      have few : p.places = none → p.leadingZeros ≤ 5 := by
        intro none
        rw [p.leadingZeros_of_no_places none]
        exact Nat.zero_le 5
      rw [if_neg zero, p.magnitudeText_eq_iff positive]
      tauto
  · intro none
    rw [render, ← String.toList_inj, p.text_read, if_pos none]
    rfl
  · intro first rest shown zero tiny
    rw [render, p.text_read, if_neg (by simp [shown]), p.magnitudeText_of_tiny shown zero tiny]

/-- Six zeros after the point are too many, five are not, and zero has no places at all. -/
theorem Literal.plain_decimal_shown_tiny :
    (∃ d, Scaled.read? "0.0000001".toList = some d ∧ (number d).render.toList = "1E-7".toList ∧
      (number d).render.toList ≠ "0.0000001".toList) ∧
    (∃ d, Scaled.read? "0.00".toList = some d ∧ (number d).render = "0" ∧
      (number d).render.toList ≠ "0.00".toList) ∧
    ∃ d, Scaled.read? "0.0000010".toList = some d ∧
      (number d).render.toList = "0.0000010".toList := by
  obtain ⟨tiny, tinyRead, tinyWritten, -, tinyShown⟩ :=
    plain_decimal_shown (.belowOne "0000001".toList (by decide) (by decide))
  obtain ⟨zero, zeroRead, zeroWritten, zeroShown, -⟩ :=
    plain_decimal_shown (.belowOne "00".toList (by decide) (by decide))
  obtain ⟨small, smallRead, smallWritten, -⟩ :=
    plain_decimal_shown (.belowOne "0000010".toList (by decide) (by decide))
  refine ⟨⟨tiny, tinyRead, ?_, ?_⟩, ⟨zero, zeroRead, zeroShown (by decide), ?_⟩,
    small, smallRead, smallWritten.mpr (by decide)⟩
  · exact (tinyShown '1' [] (by decide) rfl (by decide)).trans (by decide)
  · exact fun same => absurd (tinyWritten.mp same) (by decide)
  · exact fun same => absurd (zeroWritten.mp same) (by decide)

end QueryOptions
