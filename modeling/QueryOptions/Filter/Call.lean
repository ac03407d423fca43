import QueryOptions.Filter.Basic

/-!
Builder calls on a filter as data, the events they record, and chains of calls.

A chain knows whether an operand or an operator comes next. Each call has its
place: operands are started where an operand is due, combinators and closing
calls stand after an operand. A refused or failed call leaves the filter as it
was and the chain starts afresh.
-/

namespace QueryOptions

inductive FilterCall where
  | compare (comparison : Comparison) (negated : Bool)
  | negateNext
  | openGroup
  /-- Closes a group where an operand is due. -/
  | closeGroup
  | beginLambda (quantifier : Quantifier) (relation : String)
  | beginCount (relation : String)
  | combine (combinator : Combinator)
  /-- Closes a group after an operand. -/
  | endGroup
  | endLambda (quantifier : Quantifier)
  | endCount (op : CompareOp) (value : Literal)
  deriving DecidableEq, Repr

/-- What comes next in a chain. -/
inductive Position where
  /-- An operand is due. -/
  | clause
  /-- An operand has just ended. -/
  | operator
  deriving DecidableEq, Repr

namespace FilterCall

/-- Where a call may be made. -/
def place : FilterCall → Position
  | .compare .. | .negateNext | .openGroup | .closeGroup | .beginLambda .. | .beginCount _ =>
    .clause
  | .combine _ | .endGroup | .endLambda _ | .endCount .. => .operator

/-- Where a call leads. -/
def target : FilterCall → Position
  | .negateNext | .openGroup | .beginLambda .. | .beginCount _ | .combine _ => .clause
  | .compare .. | .closeGroup | .endGroup | .endLambda _ | .endCount .. => .operator

end FilterCall

namespace Filter

/-- Makes a call regardless of its place. -/
def perform (f : Filter) : FilterCall → Except CloseError Filter
  | .compare comparison negated => .ok (f.compare comparison negated)
  | .negateNext => .ok f.negateNext
  | .openGroup => .ok f.openGroup
  | .closeGroup | .endGroup => .ok f.closeGroup
  | .beginLambda quantifier relation => .ok (f.beginLambda quantifier relation)
  | .beginCount relation => .ok (f.beginCount relation)
  | .combine combinator => .ok (f.combine combinator)
  | .endLambda quantifier => f.closeScope (.lambda quantifier)
  | .endCount op value => f.closeCount op value

/-- The event of closing a scope; a failed close records none. -/
def closeEvents (f : Filter) (kind : ScopeKind) : List Event :=
  match f.scopes.close kind with
  | .ok scopes => [.scopeClosed kind scopes.depth]
  | .error _ => []

/-- The events that a call records. -/
def announce (f : Filter) : FilterCall → List Event
  | .compare comparison negated =>
    let field := f.scopes.qualify comparison.field
    [.comparisonAdded field comparison.op comparison.value.kind negated]
  | .beginLambda quantifier relation =>
    let scopes := f.scopes
    [.lambdaOpened quantifier (scopes.qualify relation) scopes.nextVariable (scopes.depth + 1)]
  | .beginCount relation => [.countOpened (f.scopes.qualify relation) (f.scopes.depth + 1)]
  | .endLambda quantifier => f.closeEvents (.lambda quantifier)
  | .endCount .. => f.closeEvents .count
  | _ => []

end Filter

/-- A filter that is being built, with what comes next. -/
structure Chain where
  position : Position := .clause
  filter : Filter
  deriving DecidableEq, Repr

/-- Why a chain stops. -/
inductive ChainError where
  /-- The call has no place here. -/
  | misplaced (found : Position)
  | close (error : CloseError)
  /-- The filter does not belong to an expand node. -/
  | orphan
  deriving DecidableEq, Repr

namespace ChainError

def orphanMessage : String := "filter is not attached to an expand node"

/-- The message about a call that was given by a name. -/
def message (name : String) : ChainError → String
  | .misplaced .clause => name ++ " needs an operand"
  | .misplaced .operator => name ++ " after an operand"
  | .close error => error.message
  | .orphan => orphanMessage

end ChainError

namespace Chain

/-- Makes a call in its place. -/
def call (chain : Chain) (call : FilterCall) : Except ChainError Chain :=
  if call.place = chain.position then
    match chain.filter.perform call with
    | .ok filter => .ok ⟨call.target, filter⟩
    | .error error => .error (.close error)
  else .error (.misplaced chain.position)

/-- Hands back the expand node that owns the filter; only such a filter has one. -/
def leave (chain : Chain) (owned : Bool) : Except ChainError Unit :=
  if chain.position ≠ .operator then .error (.misplaced chain.position)
  else if owned then .ok () else .error .orphan

/-- Starts afresh on what has been built. -/
def restart (chain : Chain) : Chain := { chain with position := .clause }

/-- Makes calls as long as they succeed. -/
def run : Chain → List FilterCall → Except ChainError Chain
  | chain, [] => .ok chain
  | chain, next :: rest =>
    match chain.call next with
    | .ok moved => moved.run rest
    | .error error => .error error

end Chain

end QueryOptions
