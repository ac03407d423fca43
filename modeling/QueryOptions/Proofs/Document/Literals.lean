import QueryOptions.Proofs.Document.Refinement
import QueryOptions.Proofs.Filter.Growth
import QueryOptions.Proofs.Query.Parts

/-!
# The literals of a filter

A filter has the literals that its calls have passed, which are the values of
the steps behind the calls, and its text shows them in the same order.
-/

namespace QueryOptions

/-- Texts stand in a text one behind another. -/
inductive ShowsInOrder : List String → String → Prop
  | nil (text : String) : ShowsInOrder [] text
  | cons (before : String) {first after : String} {rest : List String} :
      ShowsInOrder rest after → ShowsInOrder (first :: rest) (before ++ first ++ after)

theorem ShowsInOrder.append_left {shown : List String} {text : String}
    (inOrder : ShowsInOrder shown text) (before : String) :
    ShowsInOrder shown (before ++ text) := by
  cases inOrder with
  | nil => exact .nil _
  | cons start later =>
      rw [← String.append_assoc, ← String.append_assoc]
      exact .cons (before ++ start) later

theorem filterMap_cons_eq_append {α β : Type} (f : α → Option β) (first : α) (rest : List α) :
    (first :: rest).filterMap f = (f first).toList ++ rest.filterMap f := by
  cases found : f first with
  | none => rw [List.filterMap_cons_none found, Option.toList_none, List.nil_append]
  | some value => rw [List.filterMap_cons_some found, Option.toList_some, List.singleton_append]

def Token.literal? : Token → Option Literal
  | .comparison written _ => some written.value
  | _ => none

/-- The literals of a filter, from left to right. -/
def Filter.literals (f : Filter) : List Literal := f.tokens.filterMap Token.literal?

theorem Comparison.exists_text_eq (c : Comparison) :
    ∃ before after, c.text = before ++ c.value.render ++ after := by
  obtain ⟨field, op, value, order⟩ := c
  cases function : op.isFunction <;> cases order <;>
    simp only [text, operands, function, if_true, if_false, Bool.false_eq_true]
  case false.fieldFirst => exact ⟨field ++ " " ++ op.name ++ " ", "", by simp⟩
  case false.valueFirst => exact ⟨"", " " ++ op.name ++ " " ++ field, by simp [String.append_assoc]⟩
  case true.fieldFirst => exact ⟨op.name ++ "(" ++ field ++ ",", ")", rfl⟩
  case true.valueFirst =>
    exact ⟨op.name ++ "(", "," ++ field ++ ")", by simp [String.append_assoc]⟩

theorem Token.exists_text_eq {token : Token} {value : Literal}
    (carries : token.literal? = some value) :
    ∃ before after, token.text = before ++ value.render ++ after := by
  cases token with
  | comparison comparison trailing =>
      cases carries
      obtain ⟨more, whole⟩ := Token.exists_text_comparison comparison trailing
      obtain ⟨before, after, text⟩ := comparison.exists_text_eq
      refine ⟨before, after ++ more, ?_⟩
      rw [whole, text, String.append_assoc]
  | _ => cases carries

theorem showsInOrder_tokensText (tokens : List Token) :
    ShowsInOrder ((tokens.filterMap Token.literal?).map Literal.render) (tokensText tokens) := by
  induction tokens with
  | nil => exact .nil _
  | cons token rest inductionHypothesis =>
      rw [tokensText_cons]
      cases carries : token.literal? with
      | none =>
          rw [List.filterMap_cons_none carries]
          exact inductionHypothesis.append_left token.text
      | some value =>
          obtain ⟨before, after, text⟩ := Token.exists_text_eq carries
          rw [List.filterMap_cons_some carries, text, String.append_assoc]
          exact .cons before (inductionHypothesis.append_left after)

namespace Filter

variable {f g : Filter}

theorem showsInOrder_text (f : Filter) :
    ShowsInOrder (f.literals.map Literal.render) f.text :=
  showsInOrder_tokensText f.tokens

theorem literals_owed (f : Filter) : f.owed.filterMap Token.literal? = [] := by
  unfold owed
  split <;> rfl

theorem literals_addedTokens (f : Filter) (call : FilterCall) :
    (call.addedTokens f).filterMap Token.literal? = call.literal?.toList := by
  cases call with
  | compare comparison negated =>
      cases negated <;>
        simp [FilterCall.addedTokens, literals_owed, Token.literal?, FilterCall.literal?,
          List.filterMap_cons]
  | _ =>
      simp [FilterCall.addedTokens, literals_owed, Token.literal?, FilterCall.literal?,
        List.filterMap_cons]

theorem literals_perform {call : FilterCall} (performed : f.perform call = .ok g) :
    g.literals = f.literals ++ call.literal?.toList := by
  rcases tokens_perform performed with
    added | ⟨before, comparison, trailing, combinator, last, rfl, merged⟩
  · rw [literals, added, List.filterMap_append, literals_addedTokens]
    rfl
  · simp [literals, last, merged, Token.literal?, FilterCall.literal?]

theorem literals_performAll {calls : List FilterCall} (made : f.performAll calls = .ok g) :
    g.literals = f.literals ++ calls.filterMap FilterCall.literal? := by
  induction calls generalizing f with
  | nil =>
      cases made
      simp
  | cons call rest inductionHypothesis =>
      obtain ⟨moved, performed, later⟩ := except_bind_eq_ok.mp made
      rw [inductionHypothesis later, literals_perform performed, List.append_assoc,
        filterMap_cons_eq_append]

end Filter

/-- The value with which a step compares. -/
def FilterStep.value? : FilterStep → Option DocumentValue
  | .compare c => some c.value
  | .endCount _ value => some value
  | _ => none

theorem FilterStep.literals_freeCalls (step : FilterStep) :
    step.freeCalls.filterMap FilterCall.literal? =
      (step.value?.map DocumentValue.literal).toList := by
  cases step with
  | compare c =>
      cases negated : c.negate <;>
        simp [freeCalls, negated, FilterCall.literal?, value?, List.filterMap_cons]
  | _ => rfl

theorem literals_flatMap_freeCalls (steps : List FilterStep) :
    (steps.flatMap FilterStep.freeCalls).filterMap FilterCall.literal? =
      (steps.filterMap FilterStep.value?).map DocumentValue.literal := by
  induction steps with
  | nil => rfl
  | cons step rest inductionHypothesis =>
      rw [List.flatMap_cons, List.filterMap_append, step.literals_freeCalls, inductionHypothesis,
        filterMap_cons_eq_append, List.map_append, Option.toList_map]

theorem Filter.IsBuiltBy.literals_eq {f : Filter} {steps : List FilterStep}
    (built : f.IsBuiltBy steps) :
    f.literals = (steps.filterMap FilterStep.value?).map DocumentValue.literal := by
  rw [literals_performAll built.made, literals_flatMap_freeCalls]
  rfl

end QueryOptions
