import QueryOptions.Proofs.Filter.Growth

/-!
# Counts that are compared

A count that is innermost can always be closed. Its text is then followed by the
comparison of its result, and nothing that is built afterwards changes that.
Only the operators that are written between their operands read as a comparison
there: a function has no first argument to call.
-/

namespace QueryOptions

theorem CompareOp.head?_name (op : CompareOp) : op.name.toList.head? ≠ some ' ' := by
  cases op <;> decide

theorem resultText_eq_spaced_iff (op : CompareOp) (value : Literal) :
    resultText op value = " " ++ op.name ++ " " ++ value.render ↔ op.isFunction = false := by
  cases function : op.isFunction with
  | false => simp [resultText, function]
  | true =>
      refine iff_of_false ?_ (by simp)
      intro same
      have first := congrArg (fun text => text.toList.head?) same
      have name : op.name.toList ≠ [] := by cases op <;> decide
      simp only [resultText, function, if_true, String.toList_append, List.append_assoc,
        List.head?_append_of_ne_nil _ name] at first
      exact op.head?_name first

/-- Behind the last unmatched opener every scope is closed again. -/
theorem exists_last_opener {tokens : List Token} {outer : List ScopeKind} {kind : ScopeKind}
    (unmatched : unmatchedOpeners tokens = outer ++ [kind]) :
    ∃ before token body, tokens = before ++ token :: body ∧ token.opens? = some kind ∧
      unmatchedOpeners body = [] ∧ surplusCloses body = 0 := by
  induction tokens generalizing outer with
  | nil => simp [unmatchedOpeners] at unmatched
  | cons first rest inductionHypothesis =>
      have later {outer : List ScopeKind} (unmatched : unmatchedOpeners rest = outer ++ [kind]) :
          ∃ before token body, first :: rest = before ++ token :: body ∧
            token.opens? = some kind ∧ unmatchedOpeners body = [] ∧ surplusCloses body = 0 := by
        obtain ⟨before, token, body, rfl, found⟩ := inductionHypothesis unmatched
        exact ⟨first :: before, token, body, rfl, found⟩
      rw [unmatchedOpeners] at unmatched
      split at unmatched
      next closed =>
        rcases List.eq_nil_or_concat (unmatchedOpeners rest) with
          nothing | ⟨inner, last, found⟩
        · rw [nothing, List.append_nil] at unmatched
          have opens : first.opens? = some kind := by
            have last := congrArg List.getLast? unmatched
            cases opened : first.opens? with
            | none => simp [opened] at last
            | some other => simpa [opened] using last
          exact ⟨[], first, rest, rfl, opens, nothing, closed⟩
        · rw [found, List.concat_eq_append, ← List.append_assoc] at unmatched
          obtain ⟨-, same⟩ := List.append_inj' unmatched rfl
          cases same
          exact later (found.trans (List.concat_eq_append ..))
      next => exact later unmatched

/-- The opener of an innermost count, with the tokens inside. -/
theorem Built.split_count {names : List String} {f : Filter} (built : Built names f)
    {pending : Bool} {frames : List ScopeFrame}
    (opened : f.scopes.frames = .count pending :: frames) :
    ∃ before relation body, f.tokens = before ++ .countOpen relation :: body ∧
      unmatchedOpeners body = [] ∧ surplusCloses body = 0 := by
  have kinds : (unmatchedOpeners f.tokens).reverse = .count :: frames.map ScopeFrame.kind := by
    rw [← built.map_kind_frames, opened]
    rfl
  obtain ⟨before, token, body, tokens, opens, closed⟩ :=
    exists_last_opener (List.reverse_eq_cons_iff.mp kinds)
  cases token with
  | countOpen relation => exact ⟨before, relation, body, tokens, closed⟩
  | _ => cases opens

namespace Filter

variable {f g : Filter} {call : FilterCall} {before : List Token} {written : Comparison}

/-- Given tokens come first, and then a comparison, whatever combinator that carries. -/
def StartsWith (before : List Token) (written : Comparison) (f : Filter) : Prop :=
  ∃ trailing after, f.tokens = before ++ .comparison written trailing :: after

theorem startsWith_perform (starts : f.StartsWith before written)
    (performed : f.perform call = .ok g) : g.StartsWith before written := by
  obtain ⟨trailing, after, tokens⟩ := starts
  rcases tokens_perform performed with
    added | ⟨earlier, comparison, other, combinator, last, rfl, merged⟩
  · refine ⟨trailing, after ++ call.addedTokens f, ?_⟩
    rw [added, tokens, List.append_assoc, List.cons_append]
  · -- The combinator is merged into this comparison or into a later one.
    rcases List.eq_nil_or_concat after with rfl | ⟨after, final, rfl⟩
    · obtain ⟨rfl, same⟩ := List.append_inj' (tokens.symm.trans last) rfl
      cases same
      exact ⟨some combinator, [], merged⟩
    · rw [List.concat_eq_append, ← List.cons_append, ← List.append_assoc] at tokens
      obtain ⟨rfl, -⟩ := List.append_inj' (tokens.symm.trans last) rfl
      refine ⟨trailing, after ++ [.comparison comparison (some combinator)], ?_⟩
      rw [merged, List.append_assoc, List.cons_append]

theorem startsWith_attempts (starts : f.StartsWith before written) (calls : List FilterCall) :
    (f.attempts calls).StartsWith before written := by
  induction calls generalizing f with
  | nil => exact starts
  | cons call rest inductionHypothesis =>
      apply inductionHypothesis
      unfold attempt
      split
      next g performed => exact startsWith_perform starts performed
      next => exact starts

theorem StartsWith.text_eq (starts : f.StartsWith before written) :
    ∃ rest, f.text = tokensText before ++ written.text ++ rest := by
  obtain ⟨trailing, after, tokens⟩ := starts
  obtain ⟨more, split⟩ := Token.exists_text_comparison written trailing
  refine ⟨more ++ tokensText after, ?_⟩
  rw [text, tokens, tokensText_append, tokensText_cons, split]
  simp only [String.append_assoc]

theorem perform_endCount {pending : Bool} {frames : List ScopeFrame}
    (opened : f.scopes.frames = .count pending :: frames) (op : CompareOp) (value : Literal) :
    f.perform (.endCount op value) =
      .ok ((f.closing frames).append (.comparison ⟨"", op, value, .fieldFirst⟩ none)) := by
  have closed : f.closeScope .count = .ok (f.closing frames) := closeScope_of_frame opened
  rw [perform, closeCount, closed]

/-- However a filter was built, an innermost count is closed by a parenthesis and the comparison
of its result. That is an operator and a value after spaces exactly if the operator is no
function. Whatever calls follow, the text goes on from there: the count, its body and the
comparison stay as they are. -/
theorem closed_count_compares_result (earlier : List FilterCall) {pending : Bool}
    {frames : List ScopeFrame}
    (opened : (attempts {} earlier).scopes.frames = .count pending :: frames)
    (op : CompareOp) (value : Literal) :
    let f := attempts {} earlier
    ∃ g, f.perform (.endCount op value) = .ok g ∧
      g.text = f.text ++ ")" ++ resultText op value ∧
      (g.text = f.text ++ ")" ++ (" " ++ op.name ++ " " ++ value.render) ↔
        op.isFunction = false) ∧
      ∃ before relation body,
        f.tokens = before ++ .countOpen relation :: body ∧
        unmatchedOpeners body = [] ∧ surplusCloses body = 0 ∧
        ∀ later, ∃ rest, (g.attempts later).text =
          tokensText before ++ relation ++ "/count(" ++ tokensText body ++ ")" ++
            resultText op value ++ rest := by
  intro f
  obtain ⟨before, relation, body, tokens, matched, closed⟩ :=
    (built_attempts earlier).split_count opened
  have text : ((f.closing frames).append (.comparison ⟨"", op, value, .fieldFirst⟩ none)).text =
      f.text ++ ")" ++ resultText op value := by
    rw [text_append, text_closing, Token.text, Comparison.text_result]
  refine ⟨_, perform_endCount opened op value, text, ?_, before, relation, body, tokens, matched,
    closed, ?_⟩
  · rw [text, String.append_right_inj, resultText_eq_spaced_iff]
  · intro later
    have starts : ((f.closing frames).append
        (.comparison ⟨"", op, value, .fieldFirst⟩ none)).StartsWith
          (f.tokens ++ [.scopeClose]) ⟨"", op, value, .fieldFirst⟩ := ⟨none, [], rfl⟩
    obtain ⟨rest, shown⟩ := (startsWith_attempts starts later).text_eq
    refine ⟨rest, ?_⟩
    rw [shown, Comparison.text_result, tokens]
    simp [tokensText_cons, Token.text, String.append_assoc]

/-- A count inside a lambda that is closed with a function, with a condition after it. -/
theorem closed_count_compares_result_function :
    let f := attempts {} [.beginLambda .any "Posts", .beginCount "Tags",
      .compare ⟨"Id", .eq, .ofInt 1, .fieldFirst⟩ true]
    f.scopes.frames = [.count false, .lambda .any "x"] ∧
    ∃ g, f.perform (.endCount .contains (.ofInt 2)) = .ok g ∧
      g.text = "Posts/any(x:x/Tags/count($filter=Not Id eq 1)contains(,2)" ∧
      g.text ≠ f.text ++ ")" ++ " contains 2" ∧
      ∃ rest, (g.attempts [.combine .or, .combine .and, .endLambda .any]).text =
        g.text ++ rest := by
  intro f
  have opened : f.scopes.frames = [.count false, .lambda .any "x"] := by decide
  obtain ⟨g, performed, text, reads, before, relation, body, tokens, -, -, stays⟩ :=
    closed_count_compares_result _ opened .contains (.ofInt 2)
  refine ⟨opened, g, performed, text.trans (by decide), ?_, ?_⟩
  · intro spaced
    exact absurd (reads.mp spaced) (by decide)
  · obtain ⟨rest, shown⟩ := stays [.combine .or, .combine .and, .endLambda .any]
    refine ⟨rest, ?_⟩
    rw [shown, text, Filter.text, tokens]
    simp [tokensText_cons, Token.text, String.append_assoc]

end Filter

end QueryOptions
