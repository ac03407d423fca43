import Mathlib.Data.List.Basic
import QueryOptions.Text.Join

/-!
# Cutting outside of brackets and quotes

A separator counts where no parenthesis is open and no single quote. A text
passes from one number of open parentheses to another if none of the separators
in it counts; a text that does so can stand between separators.
-/

namespace QueryOptions.Text

/-- What stands around a place in a text. -/
structure Nesting where
  /-- Opened minus closed parentheses. -/
  brackets : Nat := 0
  quoted : Bool := false
  deriving DecidableEq, Repr

/-- The nesting behind a character; inside quotes only a quote counts. -/
def Nesting.after (n : Nesting) (c : Char) : Nesting :=
  if c = '\'' then { n with quoted := !n.quoted }
  else if n.quoted then n
  else if c = '(' then { n with brackets := n.brackets + 1 }
  else if c = ')' then { n with brackets := n.brackets - 1 }
  else n

/-- The pieces between the occurrences of a character outside of parentheses and quotes; there
is always one. -/
def cutOutside (separator : Char) : Nesting → List Char → List (List Char)
  | _, [] => [[]]
  | n, c :: rest =>
    if n = {} ∧ c = separator then [] :: cutOutside separator n rest
    else (cutOutside separator (n.after c) rest).modifyHead (c :: ·)

/-- Without parentheses, semicolons and single quotes. -/
def IsFlat (text : List Char) : Prop := ∀ c ∈ text, c ∉ ['(', ')', ';', '\'']

section IsFlat

variable {text others : List Char}

instance : Decidable (IsFlat text) := List.decidableBAll (· ∉ ['(', ')', ';', '\'']) text

@[simp] theorem isFlat_nil : IsFlat [] := by simp [IsFlat]

@[simp] theorem isFlat_cons {c : Char} :
    IsFlat (c :: text) ↔ c ∉ ['(', ')', ';', '\''] ∧ IsFlat text := List.forall_mem_cons

@[simp] theorem isFlat_append : IsFlat (text ++ others) ↔ IsFlat text ∧ IsFlat others :=
  List.forall_mem_append

end IsFlat

/-- A text leads from so many open parentheses to so many, and is not cut. -/
def Passes (separator : Char) (text : String) (outside inside : Nat) : Prop :=
  ∀ rest, cutOutside separator ⟨outside, false⟩ (text.toList ++ rest) =
    (cutOutside separator ⟨inside, false⟩ rest).modifyHead (text.toList ++ ·)

section Passes

variable {separator : Char} {outside between inside : Nat} {text : String}

theorem cutOutside_cons {n : Nesting} {c : Char} (kept : n ≠ {} ∨ c ≠ separator)
    (rest : List Char) :
    cutOutside separator n (c :: rest) =
      (cutOutside separator (n.after c) rest).modifyHead (c :: ·) := by
  rw [cutOutside, if_neg (by tauto)]

/-- Characters that leave the nesting as it is are read one by one. -/
theorem cutOutside_append {n : Nesting} {word : List Char} (same : ∀ c ∈ word, n.after c = n)
    (kept : ∀ c ∈ word, n ≠ {} ∨ c ≠ separator) (rest : List Char) :
    cutOutside separator n (word ++ rest) =
      (cutOutside separator n rest).modifyHead (word ++ ·) := by
  induction word with
  | nil => exact (congrFun List.modifyHead_id _).symm
  | cons c word inductionHypothesis =>
      have later := inductionHypothesis (fun other present => same other (.tail c present))
        fun other present => kept other (.tail c present)
      rw [List.cons_append, cutOutside_cons (kept c List.mem_cons_self),
        same c List.mem_cons_self, later, List.modifyHead_modifyHead]
      rfl

@[simp] theorem passes_empty : Passes separator "" outside outside := fun _ =>
  (congrFun List.modifyHead_id _).symm

theorem Passes.append {other : String} (first : Passes separator text outside between)
    (second : Passes separator other between inside) :
    Passes separator (text ++ other) outside inside := by
  intro rest
  rw [String.toList_append, List.append_assoc, first, second, List.modifyHead_modifyHead]
  simp [Function.comp_def]

theorem passes_open (kept : 0 < outside ∨ separator ≠ '(') :
    Passes separator "(" outside (outside + 1) := fun rest =>
  cutOutside_cons (kept.imp (by simp; omega) Ne.symm) rest

theorem passes_close : Passes separator ")" (outside + 1) outside := fun rest =>
  cutOutside_cons (.inl (by simp)) rest

/-- A text in parentheses is not cut outside of them. -/
theorem Passes.bracketed (kept : 0 < outside ∨ separator ≠ '(')
    (passes : Passes separator text (outside + 1) (outside + 1)) :
    Passes separator ("(" ++ text ++ ")") outside outside :=
  ((passes_open kept).append passes).append passes_close

theorem passes_quoted (kept : 0 < outside ∨ separator ≠ '\'') (closed : '\'' ∉ text.toList) :
    Passes separator ("'" ++ text ++ "'") outside outside := by
  intro rest
  have inner : ∀ c ∈ text.toList, (⟨outside, true⟩ : Nesting).after c = ⟨outside, true⟩ := by
    intro c written
    have ordinary : c ≠ '\'' := fun same => closed (same ▸ written)
    simp [Nesting.after, ordinary]
  have opened (word : List Char) : cutOutside separator ⟨outside, false⟩ ('\'' :: word) =
      (cutOutside separator ⟨outside, true⟩ word).modifyHead ('\'' :: ·) :=
    cutOutside_cons (kept.imp (by simp; omega) Ne.symm) word
  have ended : cutOutside separator ⟨outside, true⟩ ('\'' :: rest) =
      (cutOutside separator ⟨outside, false⟩ rest).modifyHead ('\'' :: ·) :=
    cutOutside_cons (.inl (by simp)) rest
  calc
    _ = cutOutside separator ⟨outside, false⟩ ('\'' :: (text.toList ++ '\'' :: rest)) := by simp
    _ = ((cutOutside separator ⟨outside, false⟩ rest).modifyHead fun piece =>
          '\'' :: (text.toList ++ '\'' :: piece)) := by
      rw [opened, cutOutside_append inner (fun _ _ => .inl (by simp)), ended,
        List.modifyHead_modifyHead, List.modifyHead_modifyHead]
      rfl
    _ = _ := by simp

theorem IsFlat.passes (flat : IsFlat text.toList) (kept : 0 < outside ∨ separator ∉ text.toList) :
    Passes separator text outside outside := by
  refine cutOutside_append ?_ ?_
  · intro c written
    have ordinary := flat c written
    simp only [List.mem_cons, List.not_mem_nil, or_false, not_or] at ordinary
    simp [Nesting.after, ordinary]
  · intro c written
    rcases kept with below | absent
    · exact .inl (by simp; omega)
    · exact .inr fun same => absent (same ▸ written)

/-- Between semicolons and inside parentheses a flat text is not cut. -/
def Guarded (separator : Char) (outside : Nat) : Prop := 0 < outside ∨ separator = ';'

namespace Guarded

theorem semicolon : Guarded ';' outside := .inr rfl

theorem bracketed : Guarded separator (outside + 1) := .inl outside.succ_pos

theorem deeper (guarded : Guarded separator outside) (levels : Nat) :
    Guarded separator (outside + levels) :=
  guarded.imp_left (Nat.lt_add_right levels)

theorem kept (guarded : Guarded separator outside) {c : Char} (other : c ≠ ';') :
    0 < outside ∨ separator ≠ c := by
  refine guarded.imp_right ?_
  rintro rfl
  exact other.symm

theorem passes_flat (guarded : Guarded separator outside) (flat : IsFlat text.toList) :
    Passes separator text outside outside := by
  refine flat.passes (guarded.imp_right ?_)
  rintro rfl written
  exact flat ';' written (by decide)

theorem passes_open (guarded : Guarded separator outside) :
    Passes separator "(" outside (outside + 1) :=
  Text.passes_open (guarded.kept (by decide))

end Guarded

theorem Passes.join {between : String} {parts : List String}
    (separated : Passes separator between outside outside)
    (passes : ∀ part ∈ parts, Passes separator part outside outside) :
    Passes separator (join between parts) outside outside := by
  induction parts with
  | nil => exact passes_empty
  | cons part rest inductionHypothesis =>
      have here := passes part List.mem_cons_self
      have later := inductionHypothesis fun other present => passes other (.tail part present)
      cases rest with
      | nil => exact here
      | cons next others => exact (here.append separated).append later

/-- Parts that are not cut themselves come back when their joined text is cut. -/
theorem cutOutside_join {between : String} (single : between.toList = [separator])
    {parts : List String} (nonempty : parts ≠ [])
    (passes : ∀ part ∈ parts, Passes separator part 0 0) :
    cutOutside separator {} (Text.join between parts).toList = parts.map String.toList := by
  have whole {part : String} (passes : Passes separator part 0 0) :
      cutOutside separator {} part.toList = [part.toList] := by
    simpa [cutOutside] using passes []
  induction parts with
  | nil => exact absurd rfl nonempty
  | cons part rest inductionHypothesis =>
      have here := passes part List.mem_cons_self
      cases rest with
      | nil => exact whole here
      | cons next others =>
          have later := inductionHypothesis (List.cons_ne_nil _ _)
            fun other present => passes other (.tail part present)
          rw [join_cons_cons, String.toList_append, String.toList_append, single,
            List.append_assoc, List.singleton_append, here, cutOutside, if_pos ⟨rfl, rfl⟩]
          simpa using later

end Passes

end QueryOptions.Text
