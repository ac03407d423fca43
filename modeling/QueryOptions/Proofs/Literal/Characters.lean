import QueryOptions.Proofs.Decimal.Numerals
import QueryOptions.Proofs.Text.Nesting

/-!
# The characters of literals

Numbers and instants are written without brackets, semicolons, quotes and
spaces, in every notation. Other literals stand between quotes, so that none of
them is cut as long as it has no quote of its own.
-/

namespace QueryOptions

open Text

/-- A letter, a digit or one of the signs of numbers and times. -/
@[simp]
def isBareChar (c : Char) : Bool := c.isAlphanum || ['+', '-', '.', ':'].contains c

def IsBare (text : List Char) : Prop := ∀ c ∈ text, isBareChar c = true

section IsBare

variable {text others : List Char}

instance : Decidable (IsBare text) := List.decidableBAll (isBareChar · = true) text

@[simp] theorem isBare_nil : IsBare [] := by simp [IsBare]

@[simp] theorem isBare_cons {c : Char} :
    IsBare (c :: text) ↔ isBareChar c = true ∧ IsBare text := List.forall_mem_cons

@[simp] theorem isBare_append : IsBare (text ++ others) ↔ IsBare text ∧ IsBare others :=
  List.forall_mem_append

theorem IsBare.of_subset (bare : IsBare text) (among : others ⊆ text) : IsBare others :=
  fun c written => bare c (among written)

theorem IsBare.not_mem (bare : IsBare text) {c : Char} (other : isBareChar c = false) :
    c ∉ text :=
  fun written => Bool.false_ne_true (other.symm.trans (bare c written))

theorem IsBare.isFlat (bare : IsBare text) : IsFlat text := by
  have brackets : ∀ c ∈ ['(', ')', ';', '\''], isBareChar c = false := by simp
  intro c written bracket
  exact bare.not_mem (brackets c bracket) written

end IsBare

namespace Decimal

theorem isBare_digits (n : Nat) : IsBare (digits n) := by
  intro c written
  simp [isBareChar, Char.isAlphanum, isDigit_of_mem_digits written]

theorem isBare_zeros (count : Nat) : IsBare (List.replicate count '0') := by
  intro c written
  rw [List.eq_of_mem_replicate written]
  rfl

theorem isBare_padLeft {text : List Char} (bare : IsBare text) (width : Nat) :
    IsBare (padLeft width '0' text) :=
  isBare_append.mpr ⟨isBare_zeros _, bare⟩

theorem isBare_paddedText (width n : Nat) : IsBare (paddedText width n).toList := by
  simpa [paddedText] using isBare_padLeft (isBare_digits n) width

/-- A point may be put anywhere. -/
theorem isBare_point {text : List Char} (bare : IsBare text) (place : Nat) :
    IsBare (text.take place ++ '.' :: text.drop place) := by
  have whole : IsBare (text.take place) := bare.of_subset (List.take_subset _ _)
  have fraction : IsBare (text.drop place) := bare.of_subset (List.drop_subset _ _)
  simp [whole, fraction]

namespace Scaled

theorem isBare_pointed {text : List Char} (bare : IsBare text) (places : Nat) :
    IsBare (pointed places text) := by
  unfold pointed
  split
  · exact bare
  · exact isBare_point (isBare_padLeft bare _) _

theorem isBare_scientific {text : List Char} (bare : IsBare text) (scale : Nat) :
    IsBare (scientific text scale) := by
  have exponent : IsBare ('E' :: '-' :: digits (scale - text.length + 1)) := by
    simp [isBare_digits]
  refine isBare_append.mpr ⟨?_, exponent⟩
  split
  · simpa using bare
  · exact bare

theorem isBare_magnitudeText {text : List Char} (bare : IsBare text) (scale : Int) :
    IsBare (magnitudeText text scale) := by
  unfold magnitudeText
  split_ifs
  · exact isBare_scientific bare _
  · simp [bare, isBare_digits]
  · simp [bare, isBare_zeros]
  · exact isBare_pointed bare _

theorem isBare_text (d : Scaled) : IsBare d.text.toList := by
  have magnitude := isBare_magnitudeText (isBare_digits d.unscaled.natAbs) d.scale
  unfold text
  split <;> simp [magnitude]

end Scaled

theorem isBare_positional {text : List Char} (bare : IsBare text) (exponent : Int) :
    IsBare (positional text exponent) := by
  unfold positional
  split
  · simp [bare, isBare_zeros]
  · exact isBare_point (isBare_padLeft bare _) _

theorem isBare_stripZeros {text : List Char} (bare : IsBare text) (exponent : Int) :
    IsBare (stripZeros text exponent).1 := by
  refine bare.of_subset fun c written => ?_
  exact List.mem_reverse.mp (List.dropWhile_subset _ (List.mem_reverse.mp written))

theorem isBare_shortest (tie : Tie) (i : Interval) : IsBare (shortest tie i).1 := by
  simp only [shortest]
  split
  next found =>
    obtain ⟨n, -, tried⟩ := List.exists_of_findSome?_eq_some found
    obtain ⟨coefficient, -, same⟩ := Option.map_eq_some_iff.mp tried
    cases same
    exact isBare_stripZeros (isBare_digits coefficient) _
  next => exact isBare_digits _

theorem Binary64.isBare_text (x : Binary64) : IsBare x.text.toList := by
  have sign (negative : Bool) : IsBare (signText negative).toList := by
    cases negative <;> decide
  cases x with
  | nan => decide
  | infinity negative => cases negative <;> decide
  | finite negative significand exponent =>
      have shown : IsBare (shortestDigits .up significand exponent).1 := by
        unfold shortestDigits
        split
        · decide
        · exact isBare_shortest _ _
      simp [text, sign, isBare_positional shown]

end Decimal

theorem Calendar.Instant.isBare_text (i : Calendar.Instant) : IsBare i.text.toList := by
  have year : IsBare (yearText i.date.year).toList := by
    unfold yearText
    split_ifs <;> simp [Decimal.isBare_paddedText]
  simp [text, year, Decimal.isBare_paddedText]

namespace Literal

/-- Whether a text that is put between quotes has none itself. -/
def isClosed : Literal → Bool
  | .text value | .other value => '\'' ∉ value.toList
  | _ => true

theorem isBare_boolText (value : Bool) : IsBare (boolText value).toList := by
  cases value <;> decide

/-- A literal keeps the number of open parentheses, whatever stands between its quotes. -/
theorem passes_render {separator : Char} {outside : Nat} {value : Literal}
    (closed : value.isClosed = true) (guarded : Guarded separator outside) :
    Passes separator value.render outside outside := by
  cases value with
  | text value => exact passes_quoted (guarded.kept (by decide)) (of_decide_eq_true closed)
  | number value => exact guarded.passes_flat value.isBare_text.isFlat
  | float value => exact guarded.passes_flat value.isBare_text.isFlat
  | bool value => exact guarded.passes_flat (isBare_boolText value).isFlat
  | instant value => exact guarded.passes_flat value.isBare_text.isFlat
  | other value => exact passes_quoted (guarded.kept (by decide)) (of_decide_eq_true closed)

end Literal

end QueryOptions
