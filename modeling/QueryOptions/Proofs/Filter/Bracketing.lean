import QueryOptions.Proofs.Filter.Calls
import QueryOptions.Proofs.Filter.Condition

/-!
# Brackets

Groups, lambdas and counts are brackets that calls open and close. The tokens
of a filter leave open what its calls have left open, so that a filter can be
rendered once every bracket is closed.
-/

namespace QueryOptions

/-- What calls open and close. -/
inductive Bracket where
  | group
  | scope (kind : ScopeKind)
  deriving DecidableEq, Repr

namespace Bracket

def scope? : Bracket → Option ScopeKind
  | .group => none
  | .scope kind => some kind

/-- Closes the innermost bracket, which has to be the given one. -/
def close (bracket : Bracket) : List Bracket → Option (List Bracket)
  | [] => none
  | innermost :: outer => if innermost = bracket then some outer else none

theorem close_eq_some_iff {bracket : Bracket} {stack outer : List Bracket} :
    bracket.close stack = some outer ↔ stack = bracket :: outer := by
  cases stack <;> simp [close]

end Bracket

/-- The open brackets after a call, innermost first. -/
def FilterCall.nest (stack : List Bracket) : FilterCall → Option (List Bracket)
  | .openGroup => some (.group :: stack)
  | .beginLambda quantifier _ => some (.scope (.lambda quantifier) :: stack)
  | .beginCount _ => some (.scope .count :: stack)
  | .closeGroup | .endGroup => Bracket.group.close stack
  | .endLambda quantifier => (Bracket.scope (.lambda quantifier)).close stack
  | .endCount .. => (Bracket.scope .count).close stack
  | .compare .. | .negateNext | .combine _ => some stack

/-- Every bracket is closed, and always the innermost one. -/
def WellBracketed (calls : List FilterCall) : Prop := calls.foldlM FilterCall.nest [] = some []

instance (calls : List FilterCall) : Decidable (WellBracketed calls) :=
  inferInstanceAs (Decidable (_ = _))

mutual

theorem Operand.nest_calls (operand : Operand) (stack : List Bracket) :
    operand.calls.foldlM FilterCall.nest stack = some stack := by
  cases operand with
  | comparison comparison => rfl
  | negation operand => exact operand.nest_calls stack
  | group body =>
      simp [Operand.calls, FilterCall.nest, body.nest_calls, Bracket.close]
  | lambda quantifier relation body =>
      simp [Operand.calls, FilterCall.nest, body.nest_calls, Bracket.close]
  | count relation body op value =>
      simp [Operand.calls, FilterCall.nest, body.nest_calls, Bracket.close]

theorem Condition.nest_calls (condition : Condition) (stack : List Bracket) :
    condition.calls.foldlM FilterCall.nest stack = some stack := by
  cases condition with
  | single operand => exact operand.nest_calls stack
  | joined operand combinator rest =>
      simp [Condition.calls, FilterCall.nest, operand.nest_calls, rest.nest_calls]

end

/-- The calls that build a condition close the brackets that they open. -/
theorem Condition.wellBracketed_calls (condition : Condition) : WellBracketed condition.calls :=
  condition.nest_calls []

/-- The open brackets after a token; the token that closes a scope does not tell its kind. -/
def Token.nest (stack : List Bracket) : Token → Option (List Bracket)
  | .openGroup => some (.group :: stack)
  | .lambdaOpen _ quantifier _ => some (.scope (.lambda quantifier) :: stack)
  | .countOpen _ => some (.scope .count :: stack)
  | .closeGroup => Bracket.group.close stack
  | .scopeClose =>
    match stack with
    | .scope _ :: outer => some outer
    | _ => none
  | .comparison .. | .negation | .countFilter | .combinator _ => some stack

theorem Token.nest_scopeClose_eq_some_iff {stack outer : List Bracket} :
    Token.scopeClose.nest stack = some outer ↔ ∃ kind, stack = .scope kind :: outer := by
  rcases stack with _ | ⟨_ | kind, rest⟩ <;> simp [nest]

/-- The scopes among the open brackets are those that a replay keeps. -/
theorem kinds_step_of_nest {token : Token} {stack reached : List Bracket}
    (nested : token.nest stack = some reached) :
    ScopeReplay.kinds.step (stack.filterMap Bracket.scope?) token =
      some (reached.filterMap Bracket.scope?) := by
  cases token with
  | closeGroup =>
      obtain rfl := Bracket.close_eq_some_iff.mp nested
      rfl
  | scopeClose =>
      obtain ⟨kind, rfl⟩ := Token.nest_scopeClose_eq_some_iff.mp nested
      rfl
  | countFilter =>
      cases nested
      exact congrArg some (congrFun List.modifyHead_id _)
  | _ =>
      cases nested
      rfl

theorem kinds_run_of_nest {tokens : List Token} {stack reached : List Bracket}
    (nested : tokens.foldlM Token.nest stack = some reached) :
    ScopeReplay.kinds.run (stack.filterMap Bracket.scope?) tokens =
      some (reached.filterMap Bracket.scope?) := by
  induction tokens generalizing stack with
  | nil =>
      cases nested
      rfl
  | cons token rest inductionHypothesis =>
      obtain ⟨next, here, later⟩ := Option.bind_eq_some_iff.mp nested
      rw [ScopeReplay.run_cons, kinds_step_of_nest here]
      exact inductionHypothesis later

/-- The tokens of a call open and close what the call does. -/
theorem FilterCall.nest_addedTokens {f : Filter} {call : FilterCall} {stack reached : List Bracket}
    (nested : call.nest stack = some reached) :
    (call.addedTokens f).foldlM Token.nest stack = some reached := by
  have owed (rest : List Token) :
      (f.owed ++ rest).foldlM Token.nest stack = rest.foldlM Token.nest stack := by
    unfold Filter.owed
    split <;> rfl
  cases call with
  | endLambda quantifier =>
      obtain rfl := Bracket.close_eq_some_iff.mp nested
      rfl
  | endCount op value =>
      obtain rfl := Bracket.close_eq_some_iff.mp nested
      rfl
  | compare comparison negated =>
      cases nested
      rw [addedTokens, List.append_assoc, owed]
      cases negated <;> rfl
  | closeGroup => simp [addedTokens, Token.nest, ← nested, nest]
  | endGroup => simp [addedTokens, Token.nest, ← nested, nest]
  | combine combinator => exact nested
  | _ =>
      cases nested
      rw [addedTokens, owed]
      rfl

/-- After a call the tokens of the filter leave open what the call does. -/
theorem Filter.nest_perform {f g : Filter} {call : FilterCall} {stack reached : List Bracket}
    (nested : f.tokens.foldlM Token.nest [] = some stack) (performed : f.perform call = .ok g)
    (called : call.nest stack = some reached) :
    g.tokens.foldlM Token.nest [] = some reached := by
  rcases tokens_perform performed with
    added | ⟨before, comparison, trailing, combinator, last, rfl, merged⟩
  · rw [added, List.foldlM_append, nested]
    exact call.nest_addedTokens called
  · cases called
    rw [merged]
    rw [last] at nested
    simpa [List.foldlM_append, Token.nest] using nested

/-- What holds of a filter while calls build it: its tokens leave open what the calls do. -/
structure Filter.Leaves (f : Filter) (stack : List Bracket) : Prop where
  built : f.IsBuilt
  nested : f.tokens.foldlM Token.nest [] = some stack

namespace Filter.Leaves

variable {f : Filter} {stack : List Bracket}

theorem empty : Filter.Leaves {} [] := ⟨isBuilt_empty, rfl⟩

theorem perform {g : Filter} {call : FilterCall} {reached : List Bracket} (leaves : f.Leaves stack)
    (performed : f.perform call = .ok g) (called : call.nest stack = some reached) :
    g.Leaves reached :=
  ⟨leaves.built.perform performed, nest_perform leaves.nested performed called⟩

theorem run {position : Position} {reached : Chain} {calls : List FilterCall} {left : List Bracket}
    (leaves : f.Leaves stack) (ran : Chain.run ⟨position, f⟩ calls = .ok reached)
    (called : calls.foldlM FilterCall.nest stack = some left) : reached.filter.Leaves left := by
  have ended := Chain.run_invariant
    (motive := fun f calls =>
      ∃ stack, f.Leaves stack ∧ calls.foldlM FilterCall.nest stack = some left)
    ?step ran ⟨stack, leaves, called⟩
  case step =>
    rintro f g call rest performed ⟨stack, leaves, called⟩
    obtain ⟨next, nested, later⟩ := Option.bind_eq_some_iff.mp called
    exact ⟨next, leaves.perform performed nested, later⟩
  obtain ⟨last, leaves, same⟩ := ended
  cases same
  exact leaves

theorem frames_eq_nil (leaves : f.Leaves []) : f.scopes.frames = [] := by
  obtain ⟨names, built⟩ := leaves.built
  have replayed := built.run_eq ScopeReplay.kinds_follows
  have closed : ScopeReplay.kinds.run [] f.tokens = some [] := kinds_run_of_nest leaves.nested
  rw [closed] at replayed
  exact List.map_eq_nil_iff.mp (Option.some.inj replayed).symm

theorem render_eq (leaves : f.Leaves []) : f.render = .ok f.text := by
  simp [render, renderLogged, ScopeStack.innermost, leaves.frames_eq_nil]

end Filter.Leaves

end QueryOptions
