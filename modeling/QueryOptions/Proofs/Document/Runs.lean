import QueryOptions.Proofs.Document.Refinement
import QueryOptions.Proofs.Filter.Neighbours

/-!
# Accepted steps as runs

Steps that go through are a run of the calls they stand for. Where a step meets
a closing parenthesis of a group, so does the call that it ends in, and with it
the token that this call has left.
-/

namespace QueryOptions

namespace FilterStep

/-- Where a step leads. -/
def target : FilterStep → Position
  | .not | .combine _ | .openGroup | .beginLambda .. | .beginCount _ => .clause
  | .compare _ | .closeGroup | .endLambda _ | .endCount .. => .operator

/-- The builder calls of steps of which the first is made at a position. -/
def callsFrom : Position → List FilterStep → List FilterCall
  | _, [] => []
  | position, step :: rest => step.calls position ++ callsFrom step.target rest

variable {position : Position}

/-- A negated comparison in the unusual order makes two calls, any other step makes one. -/
theorem calls_cases (step : FilterStep) (position : Position) :
    (∃ call, step.calls position = [call]) ∨
      ∃ comparison, step.calls position = [.negateNext, .compare comparison false] := by
  cases step with
  | compare c =>
      obtain ⟨field, op, value, order, negate⟩ := c
      cases negate <;> cases order <;> simp [calls]
  | _ => exact .inl ⟨_, rfl⟩

theorem calls_ne_nil (step : FilterStep) (position : Position) : step.calls position ≠ [] := by
  rcases step.calls_cases position with ⟨call, single⟩ | ⟨comparison, double⟩
  · simp [single]
  · simp [double]

theorem endsIn_target_calls (step : FilterStep) (position reached : Position) :
    EndsIn (fun call => call.target = reached) (step.calls position) ↔
      step.target = reached := by
  cases step with
  | compare c =>
      obtain ⟨field, op, value, order, negate⟩ := c
      cases negate <;> cases order <;> simp [EndsIn, calls, target, FilterCall.target]
  | closeGroup => cases position <;> simp [calls, target, FilterCall.target]
  | _ => simp [calls, target, FilterCall.target]

theorem callsFrom_eq_nil_iff {steps : List FilterStep} :
    callsFrom position steps = [] ↔ steps = [] := by
  cases steps with
  | nil => simp [callsFrom]
  | cons step rest => simp [callsFrom, calls_ne_nil]

/-- A group is closed first exactly if the first step closes one. -/
theorem head?_callsFrom_clause (steps : List FilterStep) :
    (callsFrom .clause steps).head? = some .closeGroup ↔ steps.head? = some .closeGroup := by
  cases steps with
  | nil => simp [callsFrom]
  | cons step rest =>
      cases step with
      | compare c =>
          obtain ⟨field, op, value, order, negate⟩ := c
          cases negate <;> cases order <;> simp [callsFrom, calls]
      | _ => simp [callsFrom, calls]

end FilterStep

/-- A kind of steps, and the calls in which these steps end. After each of them an operand is
due. -/
structure Stands (kind : FilterStep → Prop) (calling : FilterCall → Prop) : Prop where
  ends_iff : ∀ step position, EndsIn calling (step.calls position) ↔ kind step
  due : ∀ step, kind step → step.target = .clause

namespace Stands

open FilterStep

variable {kind : FilterStep → Prop} {calling : FilterCall → Prop}

theorem endsIn_callsFrom (stands : Stands kind calling) (position : Position)
    (steps : List FilterStep) : EndsIn calling (callsFrom position steps) ↔ EndsIn kind steps := by
  induction steps generalizing position with
  | nil => simp [callsFrom]
  | cons step rest inductionHypothesis =>
      by_cases last : rest = []
      · simp [last, callsFrom, stands.ends_iff]
      · rw [callsFrom, endsIn_append (callsFrom_eq_nil_iff.not.mpr last), inductionHypothesis,
          ← List.singleton_append, endsIn_append last]

theorem keptApart_callsFrom (stands : Stands kind calling) (position : Position)
    (steps : List FilterStep) :
    KeptApart calling .closeGroup (callsFrom position steps) ↔
      KeptApart kind .closeGroup steps := by
  induction steps generalizing position with
  | nil => simp [callsFrom]
  | cons step rest inductionHypothesis =>
      have own : KeptApart calling .closeGroup (step.calls position) := by
        rcases step.calls_cases position with ⟨call, single⟩ | ⟨comparison, double⟩
        · simp [single]
        · simp [double]
      have meets : (kind step → (callsFrom step.target rest).head? ≠ some .closeGroup) ↔
          (kind step → rest.head? ≠ some .closeGroup) := by
        refine forall_congr' fun of => ?_
        rw [stands.due step of]
        exact (head?_callsFrom_clause rest).not
      rw [callsFrom, keptApart_append, inductionHypothesis, stands.ends_iff, meets,
        ← List.singleton_append, keptApart_append]
      simp [own]

end Stands

namespace Chain

variable {chain reached : Chain} {calls : List FilterCall}

/-- The last call of a run says what comes next. -/
theorem endsIn_target_of_run (ran : chain.run calls = .ok reached) (some : calls ≠ []) :
    EndsIn (fun call => call.target = reached.position) calls := by
  refine run_induction (motive := fun calls reached =>
    calls ≠ [] → EndsIn (fun call => call.target = reached.position) calls) ?nil ?concat ran some
  case nil => exact fun some => absurd rfl some
  case concat =>
    intro calls chain call moved _ made _
    rw [endsIn_concat]
    exact (call_eq_ok_iff.mp made).2.2.symm

theorem run_of_makeCalls {step : FilterStep} (made : (chain.makeCalls step calls).failure = none) :
    chain.run calls = .ok (chain.makeCalls step calls).state := by
  induction calls generalizing chain with
  | nil => rfl
  | cons call rest inductionHypothesis =>
      rw [makeCalls] at made ⊢
      split at made
      next moved called =>
        have later := (Progress.failure_andThen_eq_none_iff.mp made).2
        rw [Progress.state_andThen rfl]
        exact run_cons_eq_ok_iff.mpr ⟨moved, called, inductionHypothesis later⟩
      next => cases made
      next => cases made
      next orphan =>
        unfold Chain.call at orphan
        split at orphan
        · split at orphan <;> cases orphan
        · cases orphan

theorem run_of_advanceAll {index : Nat} {steps : List FilterStep}
    (advanced : (chain.advanceAll index steps).failure = none) :
    chain.run (FilterStep.callsFrom chain.position steps) =
      .ok (chain.advanceAll index steps).state := by
  induction steps generalizing index chain with
  | nil => rfl
  | cons step rest inductionHypothesis =>
      rw [advanceAll] at advanced ⊢
      obtain ⟨first, later⟩ := Progress.failure_andThen_eq_none_iff.mp advanced
      rw [Progress.state_andThen first]
      have made : chain.run (step.calls chain.position) = .ok (chain.advance step).state :=
        run_of_makeCalls (Progress.failure_map_eq_none_iff.mp first)
      have position : step.target = (chain.advance step).state.position :=
        (step.endsIn_target_calls _ _).mp
          (endsIn_target_of_run made (step.calls_ne_nil chain.position))
      rw [FilterStep.callsFrom, run_append, made, position]
      exact inductionHypothesis later

end Chain

/-- Steps that go through are a run of their calls. -/
theorem Filter.run_of_applySteps {f : Filter} {steps : List FilterStep}
    (applied : (f.applySteps steps).failure = none) :
    ∃ position, Chain.run ⟨.clause, f⟩ (FilterStep.callsFrom .clause steps) =
      .ok ⟨position, (f.applySteps steps).state⟩ :=
  ⟨_, Chain.run_of_advanceAll (Progress.failure_map_eq_none_iff.mp applied)⟩

end QueryOptions
