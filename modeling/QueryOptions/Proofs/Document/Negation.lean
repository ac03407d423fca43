import QueryOptions.Proofs.Document.Refinement

/-!
# Ways of negating

A comparison is negated by a call of its own kind, by a call that negates
whatever comes next, or by a step of either kind in a document. All of them
leave the same filter. So negated comparisons in a document may be written as
two steps, anywhere and any number of them: the document goes through as far as
before and leaves the same query.
-/

namespace QueryOptions

/-- The same steps, except that some negated comparisons are a `not` and a plain comparison. -/
inductive FilterStep.Respells : List FilterStep → List FilterStep → Prop
  | nil : Respells [] []
  | keep (step : FilterStep) {steps respelled} : Respells steps respelled →
      Respells (step :: steps) (step :: respelled)
  | split (c : StepComparison) {steps respelled} : Respells steps respelled →
      Respells (.compare { c with negate := true } :: steps)
        (.not :: .compare { c with negate := false } :: respelled)

/-- A relation with the same parts, but its steps and those below it may be respelled. -/
inductive ExpandDocument.Respells : ExpandDocument → ExpandDocument → Prop
  | intro {document respelled} :
      respelled =
        { document with filter := respelled.filter, expand := respelled.expand } →
      FilterStep.Respells document.filter respelled.filter →
      List.Forall₂ Respells document.expand respelled.expand →
      Respells document respelled

structure Document.Respells (d respelled : Document) : Prop where
  others : respelled = { d with filter := respelled.filter, expand := respelled.expand }
  filter : FilterStep.Respells d.filter respelled.filter
  expand : List.Forall₂ ExpandDocument.Respells d.expand respelled.expand

theorem FilterStep.Respells.refl : ∀ steps, Respells steps steps
  | [] => .nil
  | step :: rest => .keep step (refl rest)

theorem FilterStep.respells_single (before after : List FilterStep) (c : StepComparison) :
    Respells (before ++ .compare { c with negate := true } :: after)
      (before ++ .not :: .compare { c with negate := false } :: after) := by
  induction before with
  | nil => exact .split c (.refl after)
  | cons step before inductionHypothesis => exact .keep step inductionHypothesis

/-- Two computations reach the same state, and one of them fails exactly if the other does. -/
structure Progress.Agrees {σ ε : Type} (first second : Progress σ ε) : Prop where
  state_eq : second.state = first.state
  failure_iff : second.failure = none ↔ first.failure = none

namespace Progress.Agrees

variable {σ τ ε δ : Type} {first second : Progress σ ε}

theorem refl (p : Progress σ ε) : p.Agrees p := ⟨rfl, .rfl⟩

theorem symm (agrees : first.Agrees second) : second.Agrees first :=
  ⟨agrees.state_eq.symm, agrees.failure_iff.symm⟩

theorem trans {third : Progress σ ε} (agrees : first.Agrees second)
    (further : second.Agrees third) : first.Agrees third :=
  ⟨further.state_eq.trans agrees.state_eq, further.failure_iff.trans agrees.failure_iff⟩

theorem map (agrees : first.Agrees second) (onState : σ → τ) (onFailure onOther : ε → δ) :
    (first.map onState onFailure).Agrees (second.map onState onOther) where
  state_eq := congrArg onState agrees.state_eq
  failure_iff := by
    rw [failure_map_eq_none_iff, failure_map_eq_none_iff]
    exact agrees.failure_iff

theorem andThen {next other : σ → Progress σ ε} (agrees : first.Agrees second)
    (continues : ∀ state, (next state).Agrees (other state)) :
    (first.andThen next).Agrees (second.andThen other) := by
  have reached := continues first.state
  by_cases goesOn : first.failure = none
  · have goesOnToo := agrees.failure_iff.mpr goesOn
    constructor
    · rw [state_andThen goesOn, state_andThen goesOnToo, agrees.state_eq]
      exact reached.state_eq
    · rw [failure_andThen_eq_none_iff, failure_andThen_eq_none_iff, agrees.state_eq]
      exact and_congr agrees.failure_iff reached.failure_iff
  · obtain ⟨error, failed⟩ := Option.ne_none_iff_exists'.mp goesOn
    obtain ⟨otherError, failedToo⟩ :=
      Option.ne_none_iff_exists'.mp (agrees.failure_iff.not.mpr goesOn)
    simp only [Progress.andThen, failed, failedToo]
    exact agrees

end Progress.Agrees

namespace Chain

variable {chain moved : Chain} {step : FilterStep} {events : List Event}

theorem agrees_of_advance (advanced : chain.advance step = ⟨moved, events, none⟩) (index : Nat)
    (rest : List FilterStep) :
    (moved.advanceAll (index + 1) rest).Agrees (chain.advanceAll index (step :: rest)) := by
  rw [advanceAll, advanced]
  exact ⟨rfl, .rfl⟩

theorem advance_compare (f : Filter) (c : StepComparison) :
    ∃ events, Chain.advance ⟨.clause, f⟩ (.compare c) =
      ⟨⟨.operator, f.compare ⟨c.field, c.op, c.value.literal, c.order⟩ c.negate⟩, events,
        none⟩ := by
  obtain ⟨field, op, value, order, negate⟩ := c
  cases negate with
  | false => cases order <;> exact ⟨_, rfl⟩
  | true =>
      cases order with
      | fieldFirst => exact ⟨_, rfl⟩
      | valueFirst =>
          rw [← f.compare_negateNext]
          exact ⟨_, rfl⟩

theorem advance_compare_operator (f : Filter) (c : StepComparison) :
    Chain.advance ⟨.operator, f⟩ (.compare c) =
      ⟨⟨.operator, f⟩, [], some (.needsCombinator (.compare c))⟩ := by
  obtain ⟨field, op, value, order, negate⟩ := c
  cases negate <;> cases order <;> rfl

theorem agrees_split (chain : Chain) (c : StepComparison) (index other : Nat)
    {steps respelled : List FilterStep}
    (continues : ∀ chain : Chain,
      (chain.advanceAll (index + 1) steps).Agrees (chain.advanceAll (other + 1 + 1) respelled)) :
    (chain.advanceAll index (.compare { c with negate := true } :: steps)).Agrees
      (chain.advanceAll other (.not :: .compare { c with negate := false } :: respelled)) := by
  obtain ⟨position, f⟩ := chain
  cases position with
  | operator =>
      -- Neither step has a place here, so nothing is built on either side.
      rw [advanceAll, advance_compare_operator]
      exact ⟨rfl, by simp [advanceAll, advance, FilterStep.calls, makeCalls, call,
        FilterCall.place, Progress.andThen, Progress.map]⟩
  | clause =>
      obtain ⟨events, negated⟩ := advance_compare f { c with negate := true }
      obtain ⟨later, compared⟩ := advance_compare f.negateNext { c with negate := false }
      have marked : Chain.advance ⟨.clause, f⟩ .not = ⟨⟨.clause, f.negateNext⟩, [], none⟩ := rfl
      rw [f.compare_negateNext] at compared
      have whole := agrees_of_advance negated index steps
      have first :=
        agrees_of_advance marked other (.compare { c with negate := false } :: respelled)
      have second := agrees_of_advance compared (other + 1) respelled
      exact ((whole.symm.trans (continues _)).trans second).trans first

theorem agrees_advanceAll {steps respelled : List FilterStep}
    (respells : FilterStep.Respells steps respelled) (index other : Nat) (chain : Chain) :
    (chain.advanceAll index steps).Agrees (chain.advanceAll other respelled) := by
  induction respells generalizing index other chain with
  | nil => exact .refl _
  | keep step _ inductionHypothesis =>
      rw [advanceAll, advanceAll]
      apply Progress.Agrees.andThen
      · exact (Progress.Agrees.refl (chain.advance step)).map _ _ _
      · exact fun moved => inductionHypothesis (index + 1) (other + 1) moved
  | split c _ inductionHypothesis =>
      apply agrees_split
      exact fun moved => inductionHypothesis (index + 1) (other + 1 + 1) moved

end Chain

theorem Filter.agrees_applySteps {steps respelled : List FilterStep}
    (respells : FilterStep.Respells steps respelled) (f : Filter) :
    (f.applySteps steps).Agrees (f.applySteps respelled) :=
  (Chain.agrees_advanceAll respells 0 0 { filter := f }).map _ _ _

namespace ExpandDocument

theorem Respells.relation_eq {document respelled : ExpandDocument}
    (respells : document.Respells respelled) : respelled.relation = document.relation := by
  cases respells with
  | intro others _ _ => rw [others]

theorem agrees_apply {document respelled : ExpandDocument} (respells : document.Respells respelled)
    (below : ∀ children, List.Forall₂ Respells document.expand children →
      ∀ node, (applyChildren document.expand node).Agrees (applyChildren children node))
    (node : Expand) : (document.apply node).Agrees (respelled.apply node) := by
  cases respells with
  | intro others filter expand =>
      have select : respelled.select = document.select := by rw [others]
      have orderBy : respelled.orderBy = document.orderBy := by rw [others]
      rw [apply_eq, apply_eq, select, orderBy]
      apply Progress.Agrees.andThen
      · apply Progress.Agrees.andThen
        · exact (Filter.agrees_applySteps filter _).map _ _ _
        · exact fun filtered => .refl _
      · exact below respelled.expand expand

theorem agrees_applyChildren (documents : List ExpandDocument) :
    ∀ respelled, List.Forall₂ Respells documents respelled → ∀ node,
      (applyChildren documents node).Agrees (applyChildren respelled node) := by
  induction documents using forest_induction with
  | nil =>
      intro respelled respells node
      cases respells
      exact .refl _
  | cons document rest belowHypothesis restHypothesis =>
      intro respelled respells node
      cases respells with
      | cons first later =>
          rw [applyChildren, applyChildren, first.relation_eq]
          apply Progress.Agrees.andThen
          · exact (agrees_apply first belowHypothesis _).map _ _ _
          · exact restHypothesis _ later

end ExpandDocument

theorem Query.agrees_applyExpand {documents respelled : List ExpandDocument}
    (respells : List.Forall₂ ExpandDocument.Respells documents respelled) (q : Query) :
    (q.applyExpand documents).Agrees (q.applyExpand respelled) := by
  induction respells generalizing q with
  | nil => exact .refl _
  | @cons document other _ _ first _ inductionHypothesis =>
      have filled := ExpandDocument.agrees_apply first
        (ExpandDocument.agrees_applyChildren document.expand) (.ofRelation document.relation)
      rw [applyExpand, applyExpand, first.relation_eq]
      apply Progress.Agrees.andThen
      · exact filled.map _ _ _
      · exact inductionHypothesis

theorem Document.agrees_apply {d respelled : Document} (respells : d.Respells respelled)
    (q : Query) : (d.apply q).Agrees (respelled.apply q) := by
  have head : respelled.applyHead q = d.applyHead q := by
    rw [respells.others]
    rfl
  have orderBy : respelled.orderBy = d.orderBy := by rw [respells.others]
  have paging (reached : Query) : respelled.applyPaging reached = d.applyPaging reached := by
    rw [respells.others]
    rfl
  unfold apply
  rw [head, orderBy]
  apply Progress.Agrees.andThen
  · apply Progress.Agrees.andThen
    · apply Progress.Agrees.andThen
      · exact (Filter.agrees_applySteps respells.filter _).map _ _ _
      · exact fun filtered => .refl _
    · exact Query.agrees_applyExpand respells.expand
  · intro reached
    rw [paging]
    exact .refl _

/-- All ways of negating a comparison agree. From any filter at a clause the negated comparison
leaves what a negation and the plain comparison leave. In steps, on whatever filter, and in the
filters of a document at any depth, negated comparisons may be written as two steps: that changes
neither whether the document goes through nor the query that it leaves. -/
theorem Document.negations_agree :
    (∀ (f : Filter) (comparison : Comparison),
      let negated : Chain := ⟨.operator, f.compare comparison true⟩
      Chain.run ⟨.clause, f⟩ [.compare comparison true] = .ok negated ∧
      Chain.run ⟨.clause, f⟩ [.negateNext, .compare comparison false] = .ok negated) ∧
    (∀ (f : Filter) (steps respelled : List FilterStep), FilterStep.Respells steps respelled →
      ((f.applySteps respelled).failure = none ↔ (f.applySteps steps).failure = none) ∧
      (f.applySteps respelled).state = (f.applySteps steps).state) ∧
    ∀ (q : Query) (d respelled : Document), d.Respells respelled →
      ((respelled.apply q).failure = none ↔ (d.apply q).failure = none) ∧
      (respelled.apply q).state = (d.apply q).state ∧
      (respelled.apply q).state.compile = (d.apply q).state.compile := by
  refine ⟨fun f comparison => ⟨rfl, ?_⟩, fun f steps respelled respells => ?_,
    fun q d respelled respells => ?_⟩
  · rw [← f.compare_negateNext]
    rfl
  · have agrees := Filter.agrees_applySteps respells f
    exact ⟨agrees.failure_iff, agrees.state_eq⟩
  · have agrees := Document.agrees_apply respells q
    exact ⟨agrees.failure_iff, agrees.state_eq, congrArg Query.compile agrees.state_eq⟩

/-- A negated comparison as the first one inside a count, and one two relations below. -/
theorem Document.negations_agree_nested :
    let tagged : StepComparison :=
      { field := "Tag", op := .contains, value := .text "x", order := .valueFirst, negate := true }
    let old : StepComparison := { field := "Age", op := .gt, value := .integer 9, negate := true }
    let around (steps : List FilterStep) : List FilterStep :=
      .beginCount "Posts" :: steps ++ [.endCount .gt (.integer 2)]
    let below (steps : List FilterStep) : ExpandDocument :=
      { relation := "Users", expand := [{ relation := "Friends", filter := steps }] }
    let d : Document := { filter := around [.compare tagged], expand := [below [.compare old]] }
    let respelled : Document :=
      { filter := around [.not, .compare { tagged with negate := false }],
        expand := [below [.not, .compare { old with negate := false }]] }
    d.Respells respelled ∧
    (respelled.apply {}).state.compile = (d.apply {}).state.compile ∧
    (respelled.apply {}).state.compile = .ok ⟨
      [(.expand, "Users($expand=Friends($filter=Not Age gt 9))"),
       (.filter, "Posts/count($filter=Not contains('x',Tag)) gt 2")]⟩ := by
  intro tagged old around below d respelled
  have filter : FilterStep.Respells d.filter respelled.filter :=
    FilterStep.respells_single [.beginCount "Posts"] [.endCount .gt (.integer 2)] tagged
  have friends : ExpandDocument.Respells
      { relation := "Friends", filter := [.compare old] }
      { relation := "Friends", filter := [.not, .compare { old with negate := false }] } :=
    .intro rfl (FilterStep.respells_single [] [] old) .nil
  have users : ExpandDocument.Respells (below [.compare old])
      (below [.not, .compare { old with negate := false }]) :=
    .intro rfl .nil (.cons friends .nil)
  have respells : d.Respells respelled := ⟨rfl, filter, .cons users .nil⟩
  exact ⟨respells, (negations_agree.2.2 {} d respelled respells).2.2, by decide +kernel⟩

end QueryOptions
