import QueryOptions.Text.Join

/-!
# Cutting undoes joining

Parts without the separator come back when their joined text is cut at it, and
the pieces of any text are joined to it again. Where a text is rewritten
character by character, and the separator stands for itself alone, it is cut
where it was cut before.
-/

namespace QueryOptions.Text

theorem cut_of_not_mem {separator : Char} {text : List Char} (absent : separator ∉ text) :
    cut separator text = [text] := by
  induction text with
  | nil => rfl
  | cons c text inductionHypothesis =>
      rw [List.mem_cons, not_or] at absent
      rw [cut, if_neg (Ne.symm absent.1), inductionHypothesis absent.2]

theorem cut_append_separator {separator : Char} {text : List Char} (absent : separator ∉ text)
    (rest : List Char) :
    cut separator (text ++ separator :: rest) = text :: cut separator rest := by
  induction text with
  | nil => simp [cut]
  | cons c text inductionHypothesis =>
      rw [List.mem_cons, not_or] at absent
      rw [List.cons_append, cut, if_neg (Ne.symm absent.1), inductionHypothesis absent.2]

theorem cut_join {separator : Char} {between : String} (single : between.toList = [separator])
    {parts : List String} (nonempty : parts ≠ [])
    (absent : ∀ part ∈ parts, separator ∉ part.toList) :
    cut separator (join between parts).toList = parts.map String.toList := by
  induction parts with
  | nil => exact absurd rfl nonempty
  | cons part rest inductionHypothesis =>
      have absentHere := absent part List.mem_cons_self
      cases rest with
      | nil => exact cut_of_not_mem absentHere
      | cons next others =>
          have later := inductionHypothesis (List.cons_ne_nil _ _)
            fun other present => absent other (.tail part present)
          rw [join_cons_cons, String.toList_append, String.toList_append, single,
            List.append_assoc, List.singleton_append, cut_append_separator absentHere, later]
          rfl

theorem mem_join {c : Char} {separator : String} {parts : List String}
    (written : c ∈ (join separator parts).toList) :
    c ∈ separator.toList ∨ ∃ part ∈ parts, c ∈ part.toList := by
  induction parts with
  | nil => simp at written
  | cons part rest inductionHypothesis =>
      cases rest with
      | nil => exact .inr ⟨part, List.mem_cons_self, written⟩
      | cons next others =>
          rw [join_cons_cons, String.toList_append, String.toList_append, List.mem_append,
            List.mem_append] at written
          rcases written with (here | between) | later
          · exact .inr ⟨part, List.mem_cons_self, here⟩
          · exact .inl between
          · exact (inductionHypothesis later).imp_right fun ⟨other, present, inside⟩ =>
              ⟨other, .tail part present, inside⟩

theorem cut_cons_of_ne {separator c : Char} (other : c ≠ separator) (rest : List Char) :
    cut separator (c :: rest) = (cut separator rest).modifyHead (c :: ·) := by
  rw [cut, if_neg other]
  cases pieces : cut separator rest with
  | nil => exact absurd pieces (cut_ne_nil separator rest)
  | cons piece pieces => rfl

theorem join_ofList_cons (between : String) (c : Char) (piece : List Char)
    (others : List String) :
    join between (String.ofList (c :: piece) :: others) =
      String.ofList [c] ++ join between (String.ofList piece :: others) := by
  have together : String.ofList (c :: piece) = String.ofList [c] ++ String.ofList piece := by
    rw [← String.ofList_append, List.singleton_append]
  cases others with
  | nil => exact together
  | cons next rest => simp only [join_cons_cons, together, String.append_assoc]

theorem join_cut {separator : Char} {between : String} (single : between.toList = [separator])
    (text : List Char) :
    join between ((cut separator text).map String.ofList) = String.ofList text := by
  induction text with
  | nil => rfl
  | cons c rest inductionHypothesis =>
      obtain ⟨piece, pieces, cutRest⟩ := List.exists_cons_of_ne_nil (cut_ne_nil separator rest)
      rw [cutRest, List.map_cons] at inductionHypothesis
      by_cases cuts : c = separator
      · have written : between = String.ofList [c] := by
          rw [cuts, ← single, String.ofList_toList]
        rw [cut, if_pos cuts, cutRest, List.map_cons, List.map_cons, join_cons_cons,
          inductionHypothesis, written, String.append_assoc, ← String.ofList_append]
        exact String.empty_append
      · rw [cut_cons_of_ne cuts, cutRest, List.modifyHead_cons, List.map_cons, join_ofList_cons,
          inductionHypothesis, ← String.ofList_append, List.singleton_append]

theorem cut_append_of_not_mem {separator : Char} {text : List Char} (absent : separator ∉ text)
    (rest : List Char) :
    cut separator (text ++ rest) = (cut separator rest).modifyHead (text ++ ·) := by
  induction text with
  | nil => exact (congrFun List.modifyHead_id (cut separator rest)).symm
  | cons c text inductionHypothesis =>
      rw [List.mem_cons, not_or] at absent
      rw [List.cons_append, cut_cons_of_ne (Ne.symm absent.1), inductionHypothesis absent.2,
        List.modifyHead_modifyHead]
      rfl

/-- The separator stands for itself, and nothing else stands for it. -/
structure Keeps (separator : Char) (written : Char → List Char) : Prop where
  separator_eq : written separator = [separator]
  other : ∀ c, c ≠ separator → separator ∉ written c

namespace Keeps

variable {separator : Char} {written : Char → List Char}

theorem cut_flatMap (keeps : Keeps separator written) (text : List Char) :
    cut separator (text.flatMap written) = (cut separator text).map (List.flatMap written) := by
  induction text with
  | nil => rfl
  | cons c rest inductionHypothesis =>
      rw [List.flatMap_cons]
      by_cases cuts : c = separator
      · rw [cuts, keeps.separator_eq, List.singleton_append, cut, if_pos rfl,
          inductionHypothesis, cut, if_pos rfl]
        rfl
      · rw [cut_append_of_not_mem (keeps.other c cuts), inductionHypothesis, cut_cons_of_ne cuts]
        cases cut separator rest <;> rfl

theorem takeWhile_flatMap (keeps : Keeps separator written) (text : List Char) :
    (text.flatMap written).takeWhile (· ≠ separator) =
      (text.takeWhile (· ≠ separator)).flatMap written := by
  induction text with
  | nil => rfl
  | cons c rest inductionHypothesis =>
      rw [List.flatMap_cons]
      by_cases cuts : c = separator
      · rw [cuts, keeps.separator_eq]
        simp
      · have kept : ∀ d ∈ written c, decide (d ≠ separator) = true := by
          intro d inside
          exact decide_eq_true fun same => keeps.other c cuts (same ▸ inside)
        rw [List.takeWhile_append_of_pos kept, inductionHypothesis]
        simp [cuts]

theorem dropWhile_flatMap (keeps : Keeps separator written) (text : List Char) :
    (text.flatMap written).dropWhile (· ≠ separator) =
      (text.dropWhile (· ≠ separator)).flatMap written := by
  induction text with
  | nil => rfl
  | cons c rest inductionHypothesis =>
      rw [List.flatMap_cons]
      by_cases cuts : c = separator
      · rw [cuts, keeps.separator_eq]
        simp [keeps.separator_eq]
      · have kept : ∀ d ∈ written c, decide (d ≠ separator) = true := by
          intro d inside
          exact decide_eq_true fun same => keeps.other c cuts (same ▸ inside)
        rw [List.dropWhile_append_of_pos kept, inductionHypothesis]
        simp [cuts]

end Keeps

end QueryOptions.Text
