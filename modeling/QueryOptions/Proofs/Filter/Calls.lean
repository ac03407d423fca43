import QueryOptions.Proofs.Filter.Replay

/-!
# What a call adds

Every successful call appends tokens that depend on the call and the innermost
scope alone, except that a combinator is merged into a comparison right before
it. A chain makes its calls one after another on one filter.
-/

namespace QueryOptions

/-- The literal that a caller passes with a call. -/
def FilterCall.literal? : FilterCall → Option Literal
  | .compare comparison _ => some comparison.value
  | .endCount _ value => some value
  | _ => none

/-- The `$filter=` that the innermost scope still owes. -/
def Filter.owed (f : Filter) : List Token :=
  if f.scopes.filterPending then [.countFilter] else []

/-- The tokens that a call appends. -/
def FilterCall.addedTokens (f : Filter) : FilterCall → List Token
  | .compare comparison negated =>
    f.owed ++ (if negated then [.negation] else []) ++
      [.comparison { comparison with field := f.scopes.qualify comparison.field } none]
  | .negateNext => f.owed ++ [.negation]
  | .openGroup => f.owed ++ [.openGroup]
  | .closeGroup | .endGroup => [.closeGroup]
  | .beginLambda quantifier relation =>
    f.owed ++ [.lambdaOpen (f.scopes.qualify relation) quantifier f.scopes.nextVariable]
  | .beginCount relation => f.owed ++ [.countOpen (f.scopes.qualify relation)]
  | .combine combinator => [.combinator combinator]
  | .endLambda _ => [.scopeClose]
  | .endCount op value => [.scopeClose, .comparison ⟨"", op, value, .fieldFirst⟩ none]

/-- A call with a negation as a call of its own. -/
def FilterCall.spelled : FilterCall → List FilterCall
  | .compare comparison true => [.negateNext, .compare comparison false]
  | call => [call]

theorem Built.variables {names : List String} {f : Filter} (built : Built names f) :
    ∀ frame ∈ f.scopes.frames, ∀ bound, frame.bound? = some bound →
      ∃ index, bound = variableName index := by
  induction built with
  | empty => simp
  | introduce _ opened inductionHypothesis =>
      simp only [opened, List.forall_mem_cons] at inductionHypothesis ⊢
      exact ⟨by simp [ScopeFrame.bound?], inductionHypothesis.2⟩
  | beginLambda _ _ _ _ inductionHypothesis =>
      refine List.forall_mem_cons.mpr ⟨?_, inductionHypothesis⟩
      rintro _ ⟨⟩
      exact ⟨_, rfl⟩
  | beginCount _ _ _ inductionHypothesis =>
      exact List.forall_mem_cons.mpr ⟨by simp [ScopeFrame.bound?], inductionHypothesis⟩
  | endLambda _ opened inductionHypothesis =>
      rw [opened] at inductionHypothesis
      exact (List.forall_mem_cons.mp inductionHypothesis).2
  | endCount _ _ _ opened inductionHypothesis =>
      rw [opened] at inductionHypothesis
      exact (List.forall_mem_cons.mp inductionHypothesis).2
  | _ => assumption

namespace Filter

variable {f g : Filter}

theorem tokens_introduce (f : Filter) : f.introduce.tokens = f.tokens ++ f.owed := by
  unfold introduce owed
  split <;> simp

theorem tokens_perform {call : FilterCall} (performed : f.perform call = .ok g) :
    g.tokens = f.tokens ++ call.addedTokens f ∨
      ∃ before comparison trailing combinator,
        f.tokens = before ++ [.comparison comparison trailing] ∧
        call = .combine combinator ∧
        g.tokens = before ++ [.comparison comparison (some combinator)] := by
  cases call with
  | combine combinator =>
      cases performed
      rcases f.combine_cases combinator with
        ⟨before, comparison, trailing, last, merged⟩ | ⟨-, joined⟩
      · exact .inr ⟨before, comparison, trailing, combinator, last, rfl, by rw [merged]⟩
      · exact .inl (by rw [joined]; rfl)
  | endLambda quantifier =>
      rcases f.closeScope_cases (.lambda quantifier) with
        ⟨_, _, -, -, closed⟩ | ⟨error, failed⟩
      · cases closed.symm.trans performed
        exact .inl rfl
      · cases failed.symm.trans performed
  | endCount op value =>
      rcases f.closeScope_cases .count with ⟨_, _, -, -, closed⟩ | ⟨error, failed⟩
      · simp only [perform, closeCount, closed, Except.ok.injEq] at performed
        subst performed
        exact .inl (by simp [FilterCall.addedTokens])
      · simp [perform, closeCount, failed] at performed
  | compare comparison negated =>
      cases performed
      cases negated <;>
        exact .inl (by simp [compare, tokens_introduce, FilterCall.addedTokens])
  | _ =>
      cases performed
      exact .inl (by simp [negateNext, openGroup, closeGroup, beginLambda, beginCount,
        tokens_introduce, FilterCall.addedTokens])

/-- A negated comparison is a negation and then a comparison. -/
theorem compare_negateNext (f : Filter) (comparison : Comparison) :
    f.negateNext.compare comparison false = f.compare comparison true := by
  have field : f.negateNext.scopes.qualify comparison.field =
      f.scopes.qualify comparison.field := by simp
  simp only [compare, introduce_negateNext, field]
  rfl

theorem attempt_of_perform {call : FilterCall} (performed : f.perform call = .ok g) :
    f.attempt call = g := by
  rw [attempt, performed]

/-- A filter that calls have built, whatever names they passed. -/
def IsBuilt (f : Filter) : Prop := ∃ names, Built names f

theorem isBuilt_empty : ({} : Filter).IsBuilt := ⟨[], .empty⟩

namespace IsBuilt

theorem attempt (built : f.IsBuilt) (call : FilterCall) : (f.attempt call).IsBuilt := by
  obtain ⟨names, built⟩ := built
  exact ⟨_, built.attempt call⟩

theorem perform {call : FilterCall} (built : f.IsBuilt) (performed : f.perform call = .ok g) :
    g.IsBuilt := by
  rw [← attempt_of_perform performed]
  exact built.attempt call

/-- A filter without tokens has no open scope. -/
theorem frames_eq_nil (built : f.IsBuilt) (empty : f.tokens = []) : f.scopes.frames = [] := by
  obtain ⟨names, built⟩ := built
  have replayed := built.run_frames
  rw [empty] at replayed
  exact (Option.some.inj replayed).symm

/-- Names are qualified by variables that lambdas take. -/
theorem bound?_eq_variableName (built : f.IsBuilt) {bound : String}
    (qualifies : f.scopes.bound? = some bound) : ∃ index, bound = variableName index := by
  obtain ⟨names, built⟩ := built
  obtain ⟨frame, innermost, binds⟩ := Option.bind_eq_some_iff.mp qualifies
  exact built.variables frame (List.mem_of_head? innermost) bound binds

end IsBuilt

end Filter

namespace Chain

theorem call_eq_ok_iff {chain reached : Chain} {call : FilterCall} :
    chain.call call = .ok reached ↔
      call.place = chain.position ∧ chain.filter.perform call = .ok reached.filter ∧
        reached.position = call.target := by
  obtain ⟨position, f⟩ := reached
  unfold Chain.call
  split
  next placed => cases chain.filter.perform call <;> simp [placed, eq_comm, and_comm]
  next misplaced => simp [misplaced]

theorem run_cons_eq_ok_iff {chain reached : Chain} {call : FilterCall} {rest : List FilterCall} :
    chain.run (call :: rest) = .ok reached ↔
      ∃ moved, chain.call call = .ok moved ∧ moved.run rest = .ok reached := by
  rw [run]
  cases chain.call call <;> simp

/-- Negations as calls of their own make no difference to a run. -/
theorem run_spelled (chain : Chain) (calls : List FilterCall) :
    chain.run (calls.flatMap FilterCall.spelled) = chain.run calls := by
  induction calls generalizing chain with
  | nil => rfl
  | cons call rest inductionHypothesis =>
      have others : chain.run (call :: rest.flatMap FilterCall.spelled) =
          chain.run (call :: rest) := by
        simp only [run, inductionHypothesis]
      cases call with
      | compare comparison negated =>
          cases negated with
          | false => exact others
          | true =>
              rw [← others]
              obtain ⟨position, f⟩ := chain
              cases position with
              | operator => rfl
              | clause =>
                  change Chain.run ⟨.operator, f.negateNext.compare comparison false⟩
                      (rest.flatMap FilterCall.spelled) =
                    Chain.run ⟨.operator, f.compare comparison true⟩
                      (rest.flatMap FilterCall.spelled)
                  rw [Filter.compare_negateNext]
      | _ => exact others

/-- What every successful call hands on to the calls after it holds at the end of a run. -/
theorem run_invariant {motive : Filter → List FilterCall → Prop}
    (step : ∀ f g call rest, f.perform call = .ok g → motive f (call :: rest) → motive g rest)
    {position : Position} {f : Filter} {reached : Chain} {calls : List FilterCall}
    (ran : Chain.run ⟨position, f⟩ calls = .ok reached) (start : motive f calls) :
    motive reached.filter [] := by
  induction calls generalizing position f with
  | nil =>
      cases ran
      exact start
  | cons call rest inductionHypothesis =>
      obtain ⟨⟨next, g⟩, made, ran⟩ := run_cons_eq_ok_iff.mp ran
      have performed := (call_eq_ok_iff.mp made).2.1
      exact inductionHypothesis ran (step f g call rest performed start)

end Chain

end QueryOptions
