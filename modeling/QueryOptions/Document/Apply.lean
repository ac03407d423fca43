import QueryOptions.Document

/-!
Applying a document to a query. The sections are applied in their order, each
through the builder calls. The first step that has no place or fails to close
a scope ends the application; what was built before it stays, and the failure
says where in the document it arose.
-/

namespace QueryOptions

/-- Why a step of a filter is refused. -/
inductive StepError where
  /-- The step has to follow an operand. -/
  | needsOperand (step : FilterStep)
  /-- The step starts an operand, and one has just ended. -/
  | needsCombinator (step : FilterStep)
  | close (error : CloseError)
  deriving DecidableEq, Repr

def StepError.message : StepError → String
  | .needsOperand step => "`" ++ step.name ++ "` needs an operand before it"
  | .needsCombinator step => "`" ++ step.name ++ "` cannot follow an operand without and/or"
  | .close error => error.message

/-- The refused step of a list of steps. -/
structure StepFailure where
  index : Nat
  step : FilterStep
  error : StepError
  deriving DecidableEq, Repr

/-- Which part of a document a failure lies in. -/
inductive Section where
  | filter
  | expand (relation : String)
  deriving DecidableEq, Repr

/-- A refused step with the sections around it, outermost first. -/
structure ApplyError where
  sections : List Section
  failure : StepFailure
  deriving DecidableEq, Repr

def Section.message : Section → String
  | .filter => "in $filter"
  | .expand relation => "in $expand of " ++ relation

/-- The messages about a failure, outermost first. -/
def ApplyError.messages (e : ApplyError) : List String :=
  e.sections.map Section.message ++
    ["filter step " ++ Decimal.natText e.failure.index ++ " (" ++ e.failure.step.name ++ ")",
     e.failure.error.message]

def ApplyError.within (part : Section) (e : ApplyError) : ApplyError :=
  { e with sections := part :: e.sections }

/-- What was reached: a state, the events on the way, and what stopped it if anything did. -/
structure Progress (σ ε : Type) where
  state : σ
  events : List Event
  failure : Option ε

namespace Progress

variable {σ τ ε δ : Type}

def start (state : σ) : Progress σ ε := ⟨state, [], none⟩

/-- Goes on from the state reached unless something failed. -/
def andThen (p : Progress σ ε) (next : σ → Progress σ ε) : Progress σ ε :=
  match p.failure with
  | some _ => p
  | none =>
    let reached := next p.state
    ⟨reached.state, p.events ++ reached.events, reached.failure⟩

def map (onState : σ → τ) (onFailure : ε → δ) (p : Progress σ ε) : Progress τ δ :=
  ⟨onState p.state, p.events, p.failure.map onFailure⟩

end Progress

/-- The builder calls of a step. A negated comparison in the usual operand
order is one call; in the other order the negation is a call of its own. A
group is closed in either position, by the call that belongs to it. -/
def FilterStep.calls (position : Position) : FilterStep → List FilterCall
  | .compare c =>
    let comparison : Comparison := ⟨c.field, c.op, c.value.literal, c.order⟩
    match c.negate, c.order with
    | true, .valueFirst => [.negateNext, .compare comparison false]
    | negate, _ => [.compare comparison negate]
  | .not => [.negateNext]
  | .combine combinator => [.combine combinator]
  | .openGroup => [.openGroup]
  | .closeGroup => [if position = .clause then .closeGroup else .endGroup]
  | .beginLambda quantifier relation => [.beginLambda quantifier relation]
  | .beginCount relation => [.beginCount relation]
  | .endLambda quantifier => [.endLambda quantifier]
  | .endCount op value => [.endCount op value.literal]

/-- The refusal of a step where something else is due. -/
def Position.refusal (position : Position) (step : FilterStep) : StepError :=
  match position with
  | .clause => .needsOperand step
  | .operator => .needsCombinator step

/-- Makes the calls of one step; a call out of its place refuses the step. -/
def Chain.makeCalls (step : FilterStep) : Chain → List FilterCall → Progress Chain StepError
  | chain, [] => .start chain
  | chain, next :: rest =>
    match chain.call next with
    | .ok moved =>
      (⟨moved, chain.filter.announce next, none⟩ : Progress Chain StepError).andThen
        fun reached => reached.makeCalls step rest
    | .error (.misplaced position) => ⟨chain, [], some (position.refusal step)⟩
    | .error (.close error) => ⟨chain, [], some (.close error)⟩
    | .error .orphan => .start chain

/-- Moves a chain on by one step of a document. -/
def Chain.advance (chain : Chain) (step : FilterStep) : Progress Chain StepError :=
  chain.makeCalls step (step.calls chain.position)

/-- Moves a chain on by the steps from a numbered one. -/
def Chain.advanceAll (index : Nat) : Chain → List FilterStep → Progress Chain StepFailure
  | chain, [] => .start chain
  | chain, step :: rest =>
    ((chain.advance step).map id fun error => ⟨index, step, error⟩).andThen
      fun moved => moved.advanceAll (index + 1) rest

/-- Builds a filter from steps, starting where an operand is due. -/
def Filter.applySteps (f : Filter) (steps : List FilterStep) : Progress Filter StepFailure :=
  (Chain.advanceAll 0 { filter := f } steps).map Chain.filter id

/-- Builds on the filter of an expanded relation. -/
def Expand.applyFilter (node : Expand) (steps : List FilterStep) : Progress Expand ApplyError :=
  (node.filter.applySteps steps).map (fun built => { node with filter := built })
    (fun failure => ⟨[], failure⟩)

mutual

/-- Fills a node of the expand tree. -/
def ExpandDocument.apply : ExpandDocument → Expand → Progress Expand ApplyError
  | ⟨_, select, filter, orderBy, expand⟩, node =>
    let selected := match select with
      | some select => node.addSelect select
      | none => node
    ((selected.applyFilter filter).andThen
      fun node => .start (orderBy.foldl Expand.addSortKey node)).andThen
      fun node => applyChildren expand node

/-- Adds the children of a node, each filled before the next is added. -/
def applyChildren : List ExpandDocument → Expand → Progress Expand ApplyError
  | [], node => .start node
  | document :: rest, node =>
    let child := document.apply (.ofRelation document.relation)
    (child.map node.addChild (.within (.expand document.relation))).andThen
      fun node => applyChildren rest node

end

/-- Adds the expanded relations of a document to a query. -/
def Query.applyExpand : Query → List ExpandDocument → Progress Query ApplyError
  | q, [] => .start q
  | q, document :: rest =>
    let node := document.apply (.ofRelation document.relation)
    (node.map q.addExpand (.within (.expand document.relation))).andThen
      fun reached => reached.applyExpand rest

namespace Document

/-- The parts that come before the filter. -/
def applyHead (d : Document) (q : Query) : Query :=
  { q with url := d.url <|> q.url, select := d.select <|> q.select }

def applyFilter (d : Document) (q : Query) : Progress Query ApplyError :=
  (q.filter.applySteps d.filter).map (fun built => { q with filter := built })
    (fun failure => ⟨[.filter], failure⟩)

/-- The paging, where the document states it. -/
def applyPaging (d : Document) (q : Query) : Query :=
  { q with
    top := d.top <|> q.top
    skip := d.skip <|> q.skip
    showCount := d.count.getD q.showCount
    pagination := d.pagination.getD q.pagination }

/-- Applies every section, in order. -/
def apply (d : Document) (q : Query) : Progress Query ApplyError :=
  ((((d.applyFilter (d.applyHead q)).andThen
    fun q => .start (d.orderBy.foldl Query.addSortKey q)).andThen
    fun q => q.applyExpand d.expand).andThen
    fun q => .start (d.applyPaging q))

end Document

end QueryOptions
