import QueryOptions.Proofs.Filter.Binding
import QueryOptions.Proofs.Filter.Bracketing
import QueryOptions.Proofs.Literal.Characters

/-!
# Filters hold together

Every bracket of a filter is a parenthesis in its text, and parentheses that
names and literals bring are quoted. With all brackets closed the text is not
cut between semicolons or inside parentheses.
-/

namespace QueryOptions

open Text

/-- Nothing in the names and literals of a call can be taken for a bracket, a semicolon or the
end of a literal. -/
def FilterCall.IsTame (call : FilterCall) : Prop :=
  (∀ name ∈ call.name?, IsFlat name.toList) ∧ ∀ value ∈ call.literal?, value.isClosed = true

instance (call : FilterCall) : Decidable call.IsTame := inferInstanceAs (Decidable (_ ∧ _))

def Token.IsTame : Token → Prop
  | .comparison written _ => IsFlat written.field.toList ∧ written.value.isClosed = true
  | .lambdaOpen relation _ bound => IsFlat relation.toList ∧ IsFlat bound.toList
  | .countOpen relation => IsFlat relation.toList
  | _ => True

theorem isFlat_variableName (index : Nat) : IsFlat (variableName index).toList := by
  have letters : IsFlat variableLetters := by decide
  have less : index % 26 < variableLetters.length := Nat.mod_lt _ (by decide)
  have round : IsFlat (roundText (index / 26)) := by
    cases index / 26 with
    | zero => exact isFlat_nil
    | succ number => exact (Decimal.isBare_digits _).isFlat
  rw [toList_variableName, List.getD_eq_getElem _ _ less, isFlat_cons]
  exact ⟨letters _ (List.getElem_mem less), round⟩

theorem Filter.IsBuilt.isFlat_qualify {f : Filter} (built : f.IsBuilt) {name : String}
    (flat : IsFlat name.toList) : IsFlat (f.scopes.qualify name).toList := by
  rw [ScopeStack.qualify_eq]
  cases qualifies : f.scopes.bound? with
  | none => exact flat
  | some bound =>
      obtain ⟨index, rfl⟩ := built.bound?_eq_variableName qualifies
      simp [qualified, isFlat_variableName, flat]

theorem FilterCall.IsTame.addedTokens {f : Filter} {call : FilterCall} (tame : call.IsTame)
    (built : f.IsBuilt) : ∀ token ∈ call.addedTokens f, token.IsTame := by
  have owed : ∀ token ∈ f.owed, token.IsTame := by
    unfold Filter.owed
    split <;> simp [Token.IsTame]
  obtain ⟨names, literals⟩ := tame
  cases call with
  | compare comparison negated =>
      have field := built.isFlat_qualify (names comparison.field rfl)
      have value := literals comparison.value rfl
      cases negated <;>
        simpa [FilterCall.addedTokens, or_imp, forall_and, Token.IsTame, field, value] using owed
  | beginLambda quantifier relation =>
      have name := built.isFlat_qualify (names relation rfl)
      simpa [FilterCall.addedTokens, or_imp, forall_and, Token.IsTame, name,
        ScopeStack.nextVariable, isFlat_variableName] using owed
  | beginCount relation =>
      have name := built.isFlat_qualify (names relation rfl)
      simpa [FilterCall.addedTokens, or_imp, forall_and, Token.IsTame, name] using owed
  | endCount op value =>
      simp [FilterCall.addedTokens, Token.IsTame, literals value rfl]
  | negateNext => simpa [FilterCall.addedTokens, or_imp, forall_and, Token.IsTame] using owed
  | openGroup => simpa [FilterCall.addedTokens, or_imp, forall_and, Token.IsTame] using owed
  | _ => simp [FilterCall.addedTokens, Token.IsTame]

theorem Filter.tame_perform {f g : Filter} {call : FilterCall}
    (tame : ∀ token ∈ f.tokens, token.IsTame) (built : f.IsBuilt) (called : call.IsTame)
    (performed : f.perform call = .ok g) : ∀ token ∈ g.tokens, token.IsTame := by
  rcases tokens_perform performed with
    added | ⟨before, comparison, trailing, combinator, last, rfl, merged⟩
  · rw [added]
    exact List.forall_mem_append.mpr ⟨tame, called.addedTokens built⟩
  · rw [merged]
    rw [last] at tame
    simpa [or_imp, forall_and, Token.IsTame] using tame

section Passes

variable {separator : Char} {outside : Nat}

theorem Comparison.passes_text {c : Comparison} (field : IsFlat c.field.toList)
    (value : c.value.isClosed = true) (guarded : Guarded separator outside) :
    Passes separator c.text outside outside := by
  have name : IsFlat c.op.name.toList := by cases c.op <;> decide
  have operands {depth : Nat} (guarded : Guarded separator depth) :
      Passes separator c.operands.1 depth depth ∧ Passes separator c.operands.2 depth depth := by
    unfold Comparison.operands
    cases c.order
    · exact ⟨guarded.passes_flat field, Literal.passes_render value guarded⟩
    · exact ⟨Literal.passes_render value guarded, guarded.passes_flat field⟩
  have called := guarded.passes_flat name
  cases function : c.op.isFunction with
  | true =>
      have text : c.text = c.op.name ++ "(" ++ c.operands.1 ++ "," ++ c.operands.2 ++ ")" := by
        simp [Comparison.text, function]
      rw [text]
      have comma : Passes separator "," (outside + 1) (outside + 1) :=
        Guarded.bracketed.passes_flat (by decide)
      obtain ⟨first, second⟩ := operands (Guarded.bracketed : Guarded separator (outside + 1))
      have opened := (called.append guarded.passes_open).append first
      exact ((opened.append comma).append second).append passes_close
  | false =>
      have text : c.text = c.operands.1 ++ " " ++ c.op.name ++ " " ++ c.operands.2 := by
        simp [Comparison.text, function]
      rw [text]
      have space : Passes separator " " outside outside := guarded.passes_flat (by decide)
      obtain ⟨first, second⟩ := operands guarded
      exact (((first.append space).append called).append space).append second

/-- A token leads from the brackets that are open before it to those after it. -/
theorem Token.IsTame.passes {token : Token} (tame : token.IsTame) {stack reached : List Bracket}
    (nested : token.nest stack = some reached) (guarded : Guarded separator outside) :
    Passes separator token.text (outside + stack.length) (outside + reached.length) := by
  have here := guarded.deeper stack.length
  cases token with
  | comparison written trailing =>
      cases nested
      have compared := Comparison.passes_text tame.1 tame.2 here
      cases trailing with
      | none => exact compared
      | some combinator =>
          refine compared.append (here.passes_flat ?_)
          cases combinator <;> decide
  | openGroup =>
      cases nested
      exact here.passes_open
  | closeGroup =>
      obtain rfl := Bracket.close_eq_some_iff.mp nested
      exact passes_close
  | scopeClose =>
      obtain ⟨kind, rfl⟩ := nest_scopeClose_eq_some_iff.mp nested
      exact passes_close
  | negation =>
      cases nested
      exact here.passes_flat (by decide)
  | countFilter =>
      cases nested
      exact here.passes_flat (by decide)
  | combinator joined =>
      cases nested
      refine here.passes_flat ?_
      cases joined <;> decide
  | lambdaOpen relation quantifier bound =>
      cases nested
      have name : IsFlat (relation ++ "/" ++ quantifier.name).toList := by
        cases quantifier <;> simpa [Quantifier.name] using tame.1
      have own : IsFlat (bound ++ ":").toList := by simpa using tame.2
      have text : (lambdaOpen relation quantifier bound).text =
          relation ++ "/" ++ quantifier.name ++ "(" ++ (bound ++ ":") := by
        simp [Token.text, String.append_assoc]
      rw [text]
      exact ((here.passes_flat name).append here.passes_open).append
        (Guarded.bracketed.passes_flat own)
  | countOpen relation =>
      cases nested
      have name : IsFlat (relation ++ "/count").toList := by simpa [IsTame] using tame
      have text : (countOpen relation).text = relation ++ "/count" ++ "(" := by
        rw [Token.text, String.append_assoc]
        rfl
      rw [text]
      exact (here.passes_flat name).append here.passes_open

theorem passes_tokensText {tokens : List Token} (tame : ∀ token ∈ tokens, token.IsTame)
    {stack reached : List Bracket} (nested : tokens.foldlM Token.nest stack = some reached)
    (guarded : Guarded separator outside) :
    Passes separator (tokensText tokens) (outside + stack.length) (outside + reached.length) := by
  induction tokens generalizing stack with
  | nil =>
      cases nested
      exact passes_empty
  | cons token rest inductionHypothesis =>
      obtain ⟨next, here, later⟩ := Option.bind_eq_some_iff.mp nested
      obtain ⟨tameHere, tameLater⟩ := List.forall_mem_cons.mp tame
      exact (tameHere.passes here guarded).append (inductionHypothesis tameLater later)

end Passes

theorem Filter.tame_run {position : Position} {f : Filter} {reached : Chain}
    {calls : List FilterCall} (built : f.IsBuilt) (tame : ∀ token ∈ f.tokens, token.IsTame)
    (called : ∀ call ∈ calls, call.IsTame)
    (ran : Chain.run ⟨position, f⟩ calls = .ok reached) :
    ∀ token ∈ reached.filter.tokens, token.IsTame := by
  have ended := Chain.run_invariant
    (motive := fun f calls =>
      f.IsBuilt ∧ (∀ token ∈ f.tokens, token.IsTame) ∧ ∀ call ∈ calls, call.IsTame)
    ?step ran ⟨built, tame, called⟩
  case step =>
    rintro f g call rest performed ⟨built, tame, called⟩
    obtain ⟨calledHere, calledLater⟩ := List.forall_mem_cons.mp called
    exact ⟨built.perform performed, tame_perform tame built calledHere performed, calledLater⟩
  exact ended.2.1

/-- A filter that calls have built, with all its brackets closed and nothing in its names and
literals that looks like a bracket. -/
def Filter.IsBalanced (f : Filter) : Prop :=
  ∃ calls position, Chain.run ⟨.clause, {}⟩ calls = .ok ⟨position, f⟩ ∧ WellBracketed calls ∧
    ∀ call ∈ calls, call.IsTame

namespace Filter.IsBalanced

variable {f : Filter}

theorem leaves (balanced : f.IsBalanced) : f.Leaves [] := by
  obtain ⟨calls, position, ran, bracketed, tame⟩ := balanced
  exact Leaves.empty.run ran bracketed

theorem tame (balanced : f.IsBalanced) : ∀ token ∈ f.tokens, token.IsTame := by
  obtain ⟨calls, position, ran, bracketed, called⟩ := balanced
  exact tame_run isBuilt_empty (by simp) called ran

theorem passes_text {separator : Char} {outside : Nat} (balanced : f.IsBalanced)
    (guarded : Guarded separator outside) : Passes separator f.text outside outside :=
  passes_tokensText balanced.tame balanced.leaves.nested guarded

/-- The filter of a condition is balanced, as long as no name and no literal in it looks like a
bracket. -/
theorem of_condition {condition : Condition} (tame : ∀ call ∈ condition.calls, call.IsTame)
    (ran : Chain.run ⟨.clause, {}⟩ condition.calls = .ok ⟨.operator, f⟩) : f.IsBalanced :=
  ⟨condition.calls, .operator, ran, condition.wellBracketed_calls, tame⟩

end Filter.IsBalanced

end QueryOptions
