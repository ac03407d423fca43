import QueryOptions.Document.Apply
import QueryOptions.Proofs.Filter.Calls
import QueryOptions.Proofs.Filter.Condition

/-!
# Which steps of a document are accepted

A small machine judges lists of steps. It knows whether an operand is due and
of which kinds the open scopes are, and nothing of filters. Steps are applied
exactly as far as the machine accepts them, and what they build is what their
calls build when nobody asks for their places.
-/

namespace QueryOptions

/-- Where a list of steps stands: what comes next, and the kinds of the open scopes, innermost
first. -/
structure StepState where
  position : Position := .clause
  scopes : List ScopeKind := []
  deriving DecidableEq, Repr

namespace StepState

/-- Closes the innermost scope, which has to be of the given kind. -/
def close (kind : ScopeKind) : List ScopeKind → Option StepState
  | [] => none
  | innermost :: outer => if innermost = kind then some ⟨.operator, outer⟩ else none

/-- The state after a step, if the step is accepted. -/
def next : StepState → FilterStep → Option StepState
  | ⟨.clause, scopes⟩, .compare _ => some ⟨.operator, scopes⟩
  | ⟨.clause, scopes⟩, .not => some ⟨.clause, scopes⟩
  | ⟨.clause, scopes⟩, .openGroup => some ⟨.clause, scopes⟩
  | ⟨.clause, scopes⟩, .beginLambda quantifier _ => some ⟨.clause, .lambda quantifier :: scopes⟩
  | ⟨.clause, scopes⟩, .beginCount _ => some ⟨.clause, .count :: scopes⟩
  | ⟨_, scopes⟩, .closeGroup => some ⟨.operator, scopes⟩
  | ⟨.operator, scopes⟩, .combine _ => some ⟨.clause, scopes⟩
  | ⟨.operator, scopes⟩, .endLambda quantifier => close (.lambda quantifier) scopes
  | ⟨.operator, scopes⟩, .endCount .. => close .count scopes
  | _, _ => none

def run (state : StepState) (steps : List FilterStep) : Option StepState :=
  steps.foldlM next state

/-- The machine goes through all steps, starting where an operand is due and no scope is open. -/
def Accepts (steps : List FilterStep) : Prop := (run {} steps).isSome

instance (steps : List FilterStep) : Decidable (Accepts steps) :=
  inferInstanceAs (Decidable (_ = true))

/-- The machine goes through the steps before one of the list and rejects that one. -/
def StopsAt (steps before : List FilterStep) (step : FilterStep) : Prop :=
  (∃ after, steps = before ++ step :: after) ∧
    ∃ state, run {} before = some state ∧ state.next step = none

theorem StopsAt.not_accepts {steps before : List FilterStep} {step : FilterStep}
    (stops : StopsAt steps before step) : ¬ Accepts steps := by
  obtain ⟨⟨after, rfl⟩, state, ran, rejected⟩ := stops
  have stopped : run {} (before ++ step :: after) = none := by
    unfold run at ran ⊢
    rw [List.foldlM_append, ran]
    exact congrArg (Option.bind · _) rejected
  simp [Accepts, stopped]

end StepState

/-- The calls that a step stands for, wherever it is made. -/
def FilterStep.freeCalls : FilterStep → List FilterCall
  | .compare c =>
    (if c.negate then [.negateNext] else []) ++
      [.compare ⟨c.field, c.op, c.value.literal, c.order⟩ false]
  | .not => [.negateNext]
  | .combine combinator => [.combine combinator]
  | .openGroup => [.openGroup]
  | .closeGroup => [.closeGroup]
  | .beginLambda quantifier relation => [.beginLambda quantifier relation]
  | .beginCount relation => [.beginCount relation]
  | .endLambda quantifier => [.endLambda quantifier]
  | .endCount op value => [.endCount op value.literal]

namespace Filter

/-- Makes calls regardless of their places, as long as none fails. -/
def performAll (f : Filter) (calls : List FilterCall) : Except CloseError Filter :=
  calls.foldlM perform f

/-- The kinds of the open scopes, innermost first. -/
def openKinds (f : Filter) : List ScopeKind := f.scopes.frames.map ScopeFrame.kind

theorem map_kind_settle (s : ScopeStack) :
    s.settle.frames.map ScopeFrame.kind = s.frames.map ScopeFrame.kind := by
  unfold ScopeStack.settle
  split
  next frames pending => simp [pending, ScopeFrame.kind]
  next => rfl

/-- Closing a scope of a filter is closing it among the kinds. -/
theorem closeScope_kinds (f : Filter) (kind : ScopeKind) :
    (∃ g, f.closeScope kind = .ok g ∧
      StepState.close kind f.openKinds = some ⟨.operator, g.openKinds⟩) ∨
    ∃ error, f.closeScope kind = .error error ∧ StepState.close kind f.openKinds = none := by
  rcases opened : f.scopes.frames with _ | ⟨frame, frames⟩
  · exact .inr ⟨.underflow kind, by simp [closeScope, ScopeStack.close, opened],
      by simp [openKinds, opened, StepState.close]⟩
  · by_cases same : frame.kind = kind
    · refine .inl ⟨f.closing frames, same ▸ closeScope_of_frame opened, ?_⟩
      simp [openKinds, opened, StepState.close, same]
    · exact .inr ⟨.mismatch kind frame.kind, by simp [closeScope, ScopeStack.close, opened, same],
        by simp [openKinds, opened, StepState.close, same]⟩

end Filter

theorem Position.clause_ne_operator : Position.clause ≠ .operator := by decide

namespace Chain

/-- What the machine sees of a chain. -/
def state (chain : Chain) : StepState := ⟨chain.position, chain.filter.openKinds⟩

/-- The machine accepts the steps from one chain to another, and their calls lead there. -/
structure Passes (chain : Chain) (steps : List FilterStep) (reached : Chain) : Prop where
  accepted : chain.state.run steps = some reached.state
  made : chain.filter.performAll (steps.flatMap FilterStep.freeCalls) = .ok reached.filter

theorem Passes.nil (chain : Chain) : chain.Passes [] chain := ⟨rfl, rfl⟩

theorem Passes.append {first second third : Chain} {steps more : List FilterStep}
    (passes : first.Passes steps second) (continues : second.Passes more third) :
    first.Passes (steps ++ more) third where
  accepted := by
    have accepted := passes.accepted
    unfold StepState.run at accepted ⊢
    rw [List.foldlM_append, accepted]
    exact continues.accepted
  made := by
    have made := passes.made
    unfold Filter.performAll at made ⊢
    rw [List.flatMap_append, List.foldlM_append, made]
    exact continues.made

/-- By a step the chain goes on as the machine does, or both stay where they are. -/
def Simulates (chain : Chain) (step : FilterStep) : Prop :=
  (∃ moved events, chain.advance step = ⟨moved, events, none⟩ ∧ chain.Passes [step] moved) ∨
    ∃ error, chain.advance step = ⟨chain, [], some error⟩ ∧ chain.state.next step = none

theorem Passes.singleton {chain moved : Chain} {step : FilterStep}
    (accepted : chain.state.next step = some moved.state)
    (made : chain.filter.performAll step.freeCalls = .ok moved.filter) :
    chain.Passes [step] moved where
  accepted := by simp [StepState.run, accepted]
  made := by simpa using made

section Calls

variable {position : Position} {f g : Filter} {step : FilterStep} {call : FilterCall}

/-- A call in its place that succeeds moves a chain on, if it is the only one of the step. -/
theorem simulates_of_performed (call : FilterCall) (single : step.calls position = [call])
    (free : f.performAll step.freeCalls = .ok g) (placed : call.place = position)
    (performed : f.perform call = .ok g)
    (accepted : StepState.next ⟨position, f.openKinds⟩ step =
      some ⟨call.target, g.openKinds⟩) :
    Chain.Simulates ⟨position, f⟩ step := by
  refine .inl ⟨⟨call.target, g⟩, f.announce call, ?_, .singleton accepted free⟩
  simp [advance, single, makeCalls, Chain.call, placed, performed, Progress.andThen,
    Progress.start]

/-- A step whose first call is out of its place is refused. -/
theorem simulates_of_misplaced {rest : List FilterCall}
    (calls : step.calls position = call :: rest) (misplaced : call.place ≠ position)
    (rejected : StepState.next ⟨position, f.openKinds⟩ step = none) :
    Chain.Simulates ⟨position, f⟩ step := by
  refine .inr ⟨position.refusal step, ?_, rejected⟩
  simp [advance, calls, makeCalls, Chain.call, misplaced]

theorem simulates_of_failed {error : CloseError} (single : step.calls position = [call])
    (placed : call.place = position) (failed : f.perform call = .error error)
    (rejected : StepState.next ⟨position, f.openKinds⟩ step = none) :
    Chain.Simulates ⟨position, f⟩ step := by
  refine .inr ⟨.close error, ?_, rejected⟩
  simp [advance, single, makeCalls, Chain.call, placed, failed]

end Calls

/-- A comparison is one call, or a negation and a call; either way it builds what a negation
and a comparison build. -/
theorem simulates_compare (f : Filter) (c : StepComparison) :
    Chain.Simulates ⟨.clause, f⟩ (.compare c) := by
  have kinds (comparison : Comparison) (negated : Bool) :
      (f.compare comparison negated).openKinds = f.openKinds := by
    simp [Filter.openKinds, Filter.map_kind_settle]
  obtain ⟨field, op, value, order, negate⟩ := c
  let comparison : Comparison := ⟨field, op, value.literal, order⟩
  have free : f.performAll (FilterStep.compare ⟨field, op, value, order, negate⟩).freeCalls =
      .ok (f.compare comparison negate) := by
    cases negate with
    | false => rfl
    | true => exact congrArg Except.ok (f.compare_negateNext comparison)
  have accepted :
      StepState.next ⟨.clause, f.openKinds⟩ (.compare ⟨field, op, value, order, negate⟩) =
        some ⟨.operator, (f.compare comparison negate).openKinds⟩ := by
    rw [kinds]
    rfl
  cases negate with
  | false => exact simulates_of_performed (.compare comparison false) rfl free rfl rfl accepted
  | true =>
      cases order with
      | fieldFirst =>
          exact simulates_of_performed (.compare comparison true) rfl free rfl rfl accepted
      | valueFirst =>
          have negated : (f.negateNext.compare comparison false) = f.compare comparison true :=
            f.compare_negateNext comparison
          refine .inl ⟨⟨.operator, f.compare comparison true⟩,
            f.negateNext.announce (.compare comparison false) ++ [], ?_, .singleton accepted free⟩
          rw [← negated]
          rfl

theorem simulates_endLambda (f : Filter) (quantifier : Quantifier) :
    Chain.Simulates ⟨.operator, f⟩ (.endLambda quantifier) := by
  rcases f.closeScope_kinds (.lambda quantifier) with
    ⟨g, closed, accepted⟩ | ⟨error, failed, rejected⟩
  · have free : f.performAll [.endLambda quantifier] = .ok g := by
      simp [Filter.performAll, Filter.perform, closed]
    exact simulates_of_performed (.endLambda quantifier) rfl free rfl closed accepted
  · exact simulates_of_failed rfl rfl failed rejected

theorem simulates_endCount (f : Filter) (op : CompareOp) (value : DocumentValue) :
    Chain.Simulates ⟨.operator, f⟩ (.endCount op value) := by
  rcases f.closeScope_kinds .count with ⟨g, closed, accepted⟩ | ⟨error, failed, rejected⟩
  · have performed : f.perform (.endCount op value.literal) =
        .ok (g.append (.comparison ⟨"", op, value.literal, .fieldFirst⟩ none)) := by
      simp [Filter.perform, Filter.closeCount, closed]
    have free : f.performAll [.endCount op value.literal] =
        .ok (g.append (.comparison ⟨"", op, value.literal, .fieldFirst⟩ none)) := by
      simp [Filter.performAll, performed]
    exact simulates_of_performed (.endCount op value.literal) rfl free rfl performed accepted
  · have failed : f.perform (.endCount op value.literal) = .error error := by
      simp [Filter.perform, Filter.closeCount, failed]
    exact simulates_of_failed rfl rfl failed rejected

theorem simulates_step (chain : Chain) (step : FilterStep) : chain.Simulates step := by
  obtain ⟨position, f⟩ := chain
  cases position with
  | clause =>
      cases step with
      | compare comparison => exact simulates_compare f comparison
      | not =>
          refine simulates_of_performed .negateNext rfl rfl rfl rfl ?_
          simp [StepState.next, Filter.openKinds, Filter.map_kind_settle, FilterCall.target]
      | openGroup =>
          refine simulates_of_performed .openGroup rfl rfl rfl rfl ?_
          simp [StepState.next, Filter.openKinds, Filter.map_kind_settle, FilterCall.target]
      | closeGroup => exact simulates_of_performed .closeGroup rfl rfl rfl rfl rfl
      | beginLambda quantifier relation =>
          refine simulates_of_performed (.beginLambda quantifier relation) rfl rfl rfl rfl ?_
          simp [StepState.next, Filter.openKinds, Filter.map_kind_settle, FilterCall.target,
            ScopeFrame.kind]
      | beginCount relation =>
          refine simulates_of_performed (.beginCount relation) rfl rfl rfl rfl ?_
          simp [StepState.next, Filter.openKinds, Filter.map_kind_settle, FilterCall.target,
            ScopeFrame.kind]
      | combine | endLambda | endCount =>
          exact simulates_of_misplaced rfl Position.clause_ne_operator.symm rfl
  | operator =>
      cases step with
      | closeGroup => exact simulates_of_performed .endGroup rfl rfl rfl rfl rfl
      | combine combinator =>
          refine simulates_of_performed (.combine combinator) rfl rfl rfl rfl ?_
          simp [StepState.next, Filter.openKinds, FilterCall.target]
      | endLambda quantifier => exact simulates_endLambda f quantifier
      | endCount op value => exact simulates_endCount f op value
      | compare comparison =>
          obtain ⟨field, op, value, order, negate⟩ := comparison
          cases negate <;> cases order <;>
            exact simulates_of_misplaced rfl Position.clause_ne_operator rfl
      | not | openGroup | beginLambda | beginCount =>
          exact simulates_of_misplaced rfl Position.clause_ne_operator rfl

/-- A chain goes through the steps that the machine accepts, and stops at the first one that
the machine rejects. -/
theorem advanceAll_cases (index : Nat) (chain : Chain) (steps : List FilterStep) :
    (∃ moved events, chain.advanceAll index steps = ⟨moved, events, none⟩ ∧
      chain.Passes steps moved) ∨
    ∃ before step after reached events error, steps = before ++ step :: after ∧
      chain.advanceAll index steps =
        ⟨reached, events, some ⟨index + before.length, step, error⟩⟩ ∧
      chain.Passes before reached ∧ reached.state.next step = none := by
  induction steps generalizing index chain with
  | nil => exact .inl ⟨chain, [], rfl, .nil chain⟩
  | cons step rest inductionHypothesis =>
      rcases chain.simulates_step step with
        ⟨moved, events, advanced, passes⟩ | ⟨error, refused, rejected⟩
      · have continued : chain.advanceAll index (step :: rest) =
            (⟨moved, events, none⟩ : Progress Chain StepFailure).andThen
              fun moved => moved.advanceAll (index + 1) rest := by
          rw [advanceAll, advanced]
          rfl
        rcases inductionHypothesis (index + 1) moved with
          ⟨last, later, finished, passesLater⟩ |
            ⟨before, rejectedStep, after, reached, later, error, rfl, stopped, passesLater,
              rejected⟩
        · refine .inl ⟨last, events ++ later, ?_, passes.append passesLater⟩
          rw [continued, Progress.andThen, finished]
        · refine .inr ⟨step :: before, rejectedStep, after, reached, events ++ later, error, rfl,
            ?_, passes.append passesLater, rejected⟩
          have counted : index + (step :: before).length = index + 1 + before.length := by
            simp only [List.length_cons]
            omega
          rw [continued, Progress.andThen, stopped, counted]
      · refine .inr ⟨[], step, rest, chain, [], error, rfl, ?_, .nil chain, rejected⟩
        rw [advanceAll, refused]
        rfl

end Chain

theorem Filter.applySteps_cases (f : Filter) (steps : List FilterStep) :
    (∃ moved events, f.applySteps steps = ⟨moved.filter, events, none⟩ ∧
      Chain.Passes { filter := f } steps moved) ∨
    ∃ before step after reached events error, steps = before ++ step :: after ∧
      f.applySteps steps = ⟨reached.filter, events, some ⟨before.length, step, error⟩⟩ ∧
      Chain.Passes { filter := f } before reached ∧ reached.state.next step = none := by
  rcases Chain.advanceAll_cases 0 { filter := f } steps with
    ⟨moved, events, finished, passes⟩ |
      ⟨before, step, after, reached, events, error, split, stopped, passes, rejected⟩
  · exact .inl ⟨moved, events, by rw [applySteps, finished]; rfl, passes⟩
  · refine .inr ⟨before, step, after, reached, events, error, split, ?_, passes, rejected⟩
    rw [applySteps, stopped, Nat.zero_add]
    rfl

/-- What the machine decides about steps on an empty filter. They go through exactly if it accepts
them, and build what their calls build regardless of places. Otherwise the failure names the first
step that it rejects, by number and name, and only the steps before that have built. -/
structure StepState.Decides (steps : List FilterStep) (built : Progress Filter StepFailure) :
    Prop where
  accepts_iff : built.failure = none ↔ Accepts steps
  made : Accepts steps →
    Filter.performAll {} (steps.flatMap FilterStep.freeCalls) = .ok built.state
  stops : ∀ failure, built.failure = some failure →
    ∃ before, StopsAt steps before failure.step ∧ failure.index = before.length ∧
      Filter.performAll {} (before.flatMap FilterStep.freeCalls) = .ok built.state
  messages : ∀ failure, built.failure = some failure →
    ∀ sections, (ApplyError.mk sections failure).messages =
      sections.map Section.message ++
        ["filter step " ++ Decimal.natText failure.index ++ " (" ++ failure.step.name ++ ")",
          failure.error.message]

theorem Filter.decides_applySteps (steps : List FilterStep) :
    StepState.Decides steps (applySteps {} steps) := by
  rcases applySteps_cases {} steps with
    ⟨moved, events, finished, passes⟩ |
      ⟨before, step, after, reached, events, error, split, stopped, passes, rejected⟩
  · have accepts : StepState.Accepts steps := Option.isSome_of_eq_some passes.accepted
    rw [finished]
    exact {
      accepts_iff := iff_of_true rfl accepts
      made := fun _ => passes.made
      stops := fun failure failed => by cases failed
      messages := fun failure failed => by cases failed }
  · have stops : StepState.StopsAt steps before step :=
      ⟨⟨after, split⟩, reached.state, passes.accepted, rejected⟩
    rw [stopped]
    exact {
      accepts_iff := iff_of_false (by simp) stops.not_accepts
      made := fun accepts => absurd accepts stops.not_accepts
      stops := by
        rintro failure ⟨⟩
        exact ⟨before, stops, rfl, passes.made⟩
      messages := fun _ _ _ => rfl }

/-- Whether the steps of a filter are accepted, and where they stop, is decided by the machine. On
an expanded relation and on a query the filter is the only part that steps change. -/
theorem Filter.applySteps_decided_by_machine (steps : List FilterStep) :
    let built := applySteps {} steps
    StepState.Decides steps built ∧
    (∀ node : Expand,
      let reached := Expand.applyFilter { node with filter := {} } steps
      reached.state = { node with filter := built.state } ∧
        reached.failure = built.failure.map fun failure => ⟨[], failure⟩) ∧
    ∀ (d : Document) (q : Query),
      let reached := Document.applyFilter { d with filter := steps } { q with filter := {} }
      reached.state = { q with filter := built.state } ∧
        reached.failure = built.failure.map fun failure => ⟨[.filter], failure⟩ :=
  ⟨decides_applySteps steps, fun _ => ⟨rfl, rfl⟩, fun _ _ => ⟨rfl, rfl⟩⟩

-- A group may be closed where an operand is due, a scope may not.
example : StepState.Accepts [.openGroup, .closeGroup] ∧
    ¬ StepState.Accepts [.beginCount "Posts", .endCount .gt (.integer 1)] := by decide

end QueryOptions
