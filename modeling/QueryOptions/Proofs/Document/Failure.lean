import QueryOptions.Proofs.Document.Refinement

/-!
# Where a document fails

A document fails with the first of its lists of steps that is refused on an
empty filter: the one of the whole query, then those of the relations as they
stand in the document, each before those of the relations below it. The failure
leads from the outside in to that list and to the first step in it that has no
place, and says why that step is refused.
-/

namespace QueryOptions

namespace StepState

/-- Why a scope cannot be closed while scopes of the given kinds are open. -/
def closeRefusal (kind : ScopeKind) : List ScopeKind → StepError
  | [] => .close (.underflow kind)
  | innermost :: _ => .close (.mismatch kind innermost)

/-- Why a step is refused, if it is refused. -/
def refusal : StepState → FilterStep → StepError
  | ⟨.operator, scopes⟩, .endLambda quantifier => closeRefusal (.lambda quantifier) scopes
  | ⟨.operator, scopes⟩, .endCount .. => closeRefusal .count scopes
  | ⟨.operator, _⟩, step => .needsCombinator step
  | ⟨.clause, _⟩, step => .needsOperand step

/-- The machine goes through the steps before one of the list and refuses that one, which the
failure gives by its number and with the cause. -/
structure RefusesAfter (steps before : List FilterStep) (failure : StepFailure) : Prop where
  split : ∃ after, steps = before ++ failure.step :: after
  index_eq : failure.index = before.length
  refused : ∃ state, run {} before = some state ∧ state.next failure.step = none ∧
    failure.error = state.refusal failure.step

end StepState

theorem Filter.closeScope_eq_error {f : Filter} {kind : ScopeKind}
    (rejected : StepState.close kind f.openKinds = none) :
    ∃ error, f.closeScope kind = .error error ∧
      StepState.closeRefusal kind f.openKinds = .close error := by
  rcases opened : f.scopes.frames with _ | ⟨frame, frames⟩
  · exact ⟨.underflow kind, by simp [closeScope, ScopeStack.close, opened],
      by simp [openKinds, opened, StepState.closeRefusal]⟩
  · have other : frame.kind ≠ kind := by
      intro same
      simp [openKinds, opened, StepState.close, same] at rejected
    exact ⟨.mismatch kind frame.kind, by simp [closeScope, ScopeStack.close, opened, other],
      by simp [openKinds, opened, StepState.closeRefusal]⟩

namespace Chain

theorem failure_advance {chain : Chain} {step : FilterStep}
    (rejected : chain.state.next step = none) :
    (chain.advance step).failure = some (chain.state.refusal step) := by
  obtain ⟨position, f⟩ := chain
  cases position with
  | clause =>
      cases step with
      | combine | endLambda | endCount => rfl
      | _ => cases rejected
  | operator =>
      cases step with
      | compare c =>
          obtain ⟨field, op, value, order, negate⟩ := c
          cases negate <;> cases order <;> rfl
      | not | openGroup | beginLambda | beginCount => rfl
      | closeGroup | combine => cases rejected
      | endLambda quantifier =>
          obtain ⟨error, failed, cause⟩ := Filter.closeScope_eq_error rejected
          simp [advance, FilterStep.calls, makeCalls, call, FilterCall.place, Filter.perform,
            failed, state, StepState.refusal, cause]
      | endCount op value =>
          obtain ⟨error, failed, cause⟩ := Filter.closeScope_eq_error rejected
          simp [advance, FilterStep.calls, makeCalls, call, FilterCall.place, Filter.perform,
            Filter.closeCount, failed, state, StepState.refusal, cause]

theorem failure_advanceAll {index : Nat} {chain : Chain} {steps : List FilterStep}
    {failure : StepFailure} (failed : (chain.advanceAll index steps).failure = some failure) :
    ∃ before after state, steps = before ++ failure.step :: after ∧
      failure.index = index + before.length ∧ chain.state.run before = some state ∧
      state.next failure.step = none ∧ failure.error = state.refusal failure.step := by
  induction steps generalizing index chain with
  | nil => cases failed
  | cons step rest inductionHypothesis =>
      rw [advanceAll] at failed
      rcases chain.simulates_step step with
        ⟨moved, events, advanced, passes⟩ | ⟨error, refused, rejected⟩
      · rw [advanced] at failed
        obtain ⟨before, after, state, split, number, ran, stops, cause⟩ :=
          inductionHypothesis failed
        have accepted : chain.state.next step = some moved.state := by
          simpa [StepState.run] using passes.accepted
        refine ⟨step :: before, after, state, by rw [split, List.cons_append], ?_, ?_, stops, cause⟩
        · rw [number, List.length_cons]
          omega
        · rw [StepState.run, List.foldlM_cons, accepted]
          exact ran
      · have reported := failure_advance rejected
        rw [refused] at failed reported
        cases failed
        exact ⟨[], rest, chain.state, rfl, rfl, rfl, rejected, Option.some.inj reported⟩

end Chain

/-- A list of steps that fails on an empty filter does so at the first step without a place. -/
theorem Filter.refusesAfter_of_applySteps {steps : List FilterStep} {failure : StepFailure}
    (failed : (applySteps {} steps).failure = some failure) :
    ∃ before, StepState.RefusesAfter steps before failure := by
  have advanced : (Chain.advanceAll 0 { filter := {} } steps).failure = some failure := by
    simpa [applySteps] using failed
  obtain ⟨before, after, state, split, number, ran, rejected, cause⟩ :=
    Chain.failure_advanceAll advanced
  exact ⟨before, ⟨after, split⟩, by rw [number, Nat.zero_add], state, ran, rejected, cause⟩

/-- A list of steps in a document and the sections around it, outermost first. -/
structure LocatedSteps where
  sections : List Section
  steps : List FilterStep

namespace LocatedSteps

def within (part : Section) (located : LocatedSteps) : LocatedSteps :=
  { located with sections := part :: located.sections }

/-- The failure of the steps on an empty filter, with the sections around them. -/
def error? (located : LocatedSteps) : Option ApplyError :=
  (Filter.applySteps {} located.steps).failure.map fun failure => ⟨located.sections, failure⟩

theorem error?_within (part : Section) (located : LocatedSteps) :
    (located.within part).error? = located.error?.map (.within part) := by
  simp [error?, within, ApplyError.within, Function.comp_def]

theorem findSome?_cons (located : LocatedSteps) (rest : List LocatedSteps) :
    (located :: rest).findSome? error? = located.error?.or (rest.findSome? error?) := by
  rw [List.findSome?_cons]
  cases located.error? <;> rfl

theorem findSome?_map_within (part : Section) (lists : List LocatedSteps) :
    (lists.map (within part)).findSome? error? = (lists.findSome? error?).map (.within part) := by
  rw [List.findSome?_map, List.map_findSome?]
  exact congrArg lists.findSome? (funext fun located => error?_within part located)

end LocatedSteps

namespace ExpandDocument

mutual

/-- The steps of a relation, and after them those of the relations below it. -/
def located : ExpandDocument → List LocatedSteps
  | ⟨relation, _, filter, _, expand⟩ =>
    (⟨[], filter⟩ :: forestLocated expand).map (.within (.expand relation))

/-- The steps of relations side by side. -/
def forestLocated : List ExpandDocument → List LocatedSteps
  | [] => []
  | document :: rest => document.located ++ forestLocated rest

end

theorem located_eq (document : ExpandDocument) :
    document.located = (⟨[], document.filter⟩ :: forestLocated document.expand).map
      (.within (.expand document.relation)) := by
  cases document
  rw [located]

theorem failure_apply {document : ExpandDocument} (relation : String)
    (below : ∀ node, (applyChildren document.expand node).failure =
      (forestLocated document.expand).findSome? LocatedSteps.error?) :
    (document.apply (.ofRelation relation)).failure =
      (⟨[], document.filter⟩ :: forestLocated document.expand).findSome? LocatedSteps.error? := by
  let selected : Expand :=
    { Expand.ofRelation relation with select := document.select.elim .empty Select.empty.extend }
  have filtered : (selected.applyFilter document.filter).failure =
      (LocatedSteps.mk [] document.filter).error? := rfl
  rw [apply_eq, elim_addSelect_ofRelation, Progress.failure_andThen, Progress.failure_andThen,
    filtered, Progress.failure_start, Option.or_none, below, LocatedSteps.findSome?_cons]

theorem failure_applyChildren (documents : List ExpandDocument) (node : Expand) :
    (applyChildren documents node).failure =
      (forestLocated documents).findSome? LocatedSteps.error? := by
  induction documents using forest_induction generalizing node with
  | nil => rfl
  | cons document rest belowHypothesis restHypothesis =>
      rw [applyChildren, Progress.failure_andThen, Progress.failure_map,
        failure_apply document.relation belowHypothesis, restHypothesis, forestLocated,
        List.findSome?_append, located_eq, LocatedSteps.findSome?_map_within]

end ExpandDocument

theorem Query.failure_applyExpand (documents : List ExpandDocument) (q : Query) :
    (q.applyExpand documents).failure =
      (ExpandDocument.forestLocated documents).findSome? LocatedSteps.error? := by
  induction documents generalizing q with
  | nil => rfl
  | cons document rest inductionHypothesis =>
      have below := ExpandDocument.failure_applyChildren document.expand
      rw [applyExpand, Progress.failure_andThen, Progress.failure_map,
        ExpandDocument.failure_apply document.relation below, inductionHypothesis,
        ExpandDocument.forestLocated, List.findSome?_append, ExpandDocument.located_eq,
        LocatedSteps.findSome?_map_within]

namespace Document

/-- All steps of a document, in the order in which they are applied. -/
def located (d : Document) : List LocatedSteps :=
  ⟨[.filter], d.filter⟩ :: ExpandDocument.forestLocated d.expand

theorem failure_apply (d : Document) (q : Query) :
    (d.apply { q with filter := {} }).failure = d.located.findSome? LocatedSteps.error? := by
  have filtered : (d.applyFilter (d.applyHead { q with filter := {} })).failure =
      (LocatedSteps.mk [.filter] d.filter).error? := rfl
  rw [apply, Progress.failure_andThen, Progress.failure_andThen, Progress.failure_andThen,
    filtered, Query.failure_applyExpand, Progress.failure_start, Progress.failure_start,
    Option.or_none, Option.or_none, located, LocatedSteps.findSome?_cons]

/-- A document that is applied to a query without a filter fails exactly if one of its lists of
steps, at any depth, is refused on an empty filter. What is reported is the first such list in the
order of the document: the messages lead through the sections around it, outermost first, to the
number and name of the first step in it that has no place, and to why it has none. -/
theorem failure_points_to_first_refused (d : Document) (q : Query) :
    let applied := d.apply { q with filter := {} }
    (applied.failure ≠ none ↔
      ∃ located ∈ d.located, (Filter.applySteps {} located.steps).failure ≠ none) ∧
    ∀ error, applied.failure = some error ↔
      ∃ earlier located later before, d.located = earlier ++ located :: later ∧
        (∀ other ∈ earlier, (Filter.applySteps {} other.steps).failure = none) ∧
        (Filter.applySteps {} located.steps).failure = some error.failure ∧
        StepState.RefusesAfter located.steps before error.failure ∧
        error.sections = located.sections ∧
        error.messages = located.sections.map Section.message ++
          ["filter step " ++ Decimal.natText before.length ++
              " (" ++ error.failure.step.name ++ ")",
            error.failure.error.message] := by
  intro applied
  have failure : applied.failure = d.located.findSome? LocatedSteps.error? := failure_apply d q
  have accepted_iff (located : LocatedSteps) :
      located.error? = none ↔ (Filter.applySteps {} located.steps).failure = none := by
    simp [LocatedSteps.error?]
  constructor
  · rw [failure, ne_eq, List.findSome?_eq_none_iff]
    simp only [accepted_iff, not_forall, exists_prop]
  · intro error
    rw [failure, List.findSome?_eq_some_iff]
    constructor
    · rintro ⟨earlier, located, later, split, refused, passed⟩
      obtain ⟨stepFailure, failed, rfl⟩ := Option.map_eq_some_iff.mp refused
      obtain ⟨before, refuses⟩ := Filter.refusesAfter_of_applySteps failed
      refine ⟨earlier, located, later, before, split, ?_, failed, refuses, rfl, ?_⟩
      · exact fun other present => (accepted_iff other).mp (passed other present)
      · rw [← refuses.index_eq]
        rfl
    · rintro ⟨earlier, located, later, before, split, passed, failed, -, sections, -⟩
      refine ⟨earlier, located, later, split, ?_, ?_⟩
      · rw [LocatedSteps.error?, failed, ← sections]
        rfl
      · exact fun other present => (accepted_iff other).mpr (passed other present)

/-- Everything up to the steps below the second relation passes. They close a scope as another
kind than it was opened, and the third relation is not looked at. -/
theorem failure_points_to_first_refused_nested :
    let books : ExpandDocument :=
      { relation := "Books",
        filter := [.beginLambda .any "Tags",
          .compare { field := "Name", op := .eq, value := .text "a" }, .endLambda .all] }
    let authors : ExpandDocument :=
      { relation := "Authors", filter := [.not, .openGroup], expand := [books] }
    let late : ExpandDocument := { relation := "Late", filter := [.combine .or] }
    let d : Document :=
      { filter := [.compare { field := "Id", op := .eq, value := .integer 1 }],
        expand := [{ relation := "Place" }, authors, late] }
    let error : ApplyError :=
      ⟨[.expand "Authors", .expand "Books"],
        ⟨2, .endLambda .all, .close (.mismatch (.lambda .all) (.lambda .any))⟩⟩
    (d.apply { Query.ofDefaults {} with filter := {} }).failure = some error ∧
    error.messages = ["in $expand of Authors", "in $expand of Books", "filter step 2 (end_all)",
      "cannot close all(): innermost open scope is any()"] := by
  intro books authors late d error
  have refuses : StepState.RefusesAfter books.filter (books.filter.take 2) error.failure :=
    ⟨⟨[], rfl⟩, rfl, ⟨.operator, [.lambda .any]⟩, rfl, rfl, rfl⟩
  refine ⟨((failure_points_to_first_refused d (.ofDefaults {})).2 error).mpr ?_, by decide⟩
  exact ⟨[⟨[.filter], d.filter⟩, ⟨[.expand "Place"], []⟩, ⟨[.expand "Authors"], authors.filter⟩],
    ⟨error.sections, books.filter⟩, [⟨[.expand "Late"], late.filter⟩], books.filter.take 2,
    rfl, by decide, by rfl, refuses, rfl, by rfl⟩

end Document

end QueryOptions
