import QueryOptions.Defaults
import QueryOptions.Filter.Token

/-!
Events: what a log records of building and compiling queries, and computations
that record events on their way.
-/

namespace QueryOptions

inductive Event where
  | comparisonAdded (field : String) (op : CompareOp) (literal : String) (negated : Bool)
  | lambdaOpened (quantifier : Quantifier) (relation bound : String) (depth : Nat)
  | countOpened (relation : String) (depth : Nat)
  | scopeClosed (kind : ScopeKind) (depth : Nat)
  | unbalancedGroups (openGroups : Int)
  | compiled (keys expandDepth : Nat)
  | defaultsInstalled (defaults : Defaults)
  deriving DecidableEq, Repr

inductive Level where
  | trace
  | debug
  | warn
  deriving DecidableEq, Repr

def Level.name : Level → String
  | .trace => "trace"
  | .debug => "debug"
  | .warn => "warn"

namespace Event

def level : Event → Level
  | .unbalancedGroups _ => .warn
  | .compiled .. | .defaultsInstalled _ => .debug
  | _ => .trace

def message : Event → String
  | .comparisonAdded .. => "comparison added"
  | .lambdaOpened .. => "lambda scope opened"
  | .countOpened .. => "count scope opened"
  | .scopeClosed .. => "scope closed"
  | .unbalancedGroups _ => "rendering $filter with unbalanced parentheses"
  | .compiled .. => "compiled OData query"
  | .defaultsInstalled _ => "installing OData query defaults"

def optionText : Option Nat → String
  | none => "None"
  | some n => "Some(" ++ Decimal.natText n ++ ")"

/-- The details of an event, by name and in order. -/
def fields : Event → List (String × String)
  | .comparisonAdded field op literal negated =>
    [("field", field), ("op", op.name), ("literal", literal),
     ("negated", Literal.boolText negated)]
  | .lambdaOpened quantifier relation bound depth =>
    [("kind", quantifier.name), ("relation", relation), ("variable", bound),
     ("depth", Decimal.natText depth)]
  | .countOpened relation depth => [("relation", relation), ("depth", Decimal.natText depth)]
  | .scopeClosed kind depth => [("kind", kind.name), ("depth", Decimal.natText depth)]
  | .unbalancedGroups openGroups => [("open_groups", Decimal.intText openGroups)]
  | .compiled keys expandDepth =>
    [("keys", Decimal.natText keys), ("expand_depth", Decimal.natText expandDepth)]
  | .defaultsInstalled defaults =>
    [("default_top", optionText defaults.top), ("default_skip", optionText defaults.skip),
     ("pagination_enabled", Literal.boolText defaults.pagination),
     ("default_show_count", Literal.boolText defaults.showCount)]

/-- One line: level, message and `name=value` parts between bars. -/
def line (event : Event) : String :=
  Text.join "|" (event.level.name :: event.message ::
    event.fields.map fun (name, value) => name ++ "=" ++ value)

end Event

/-- The outcome of a computation with the events recorded until its end. -/
structure Logged (ε α : Type) where
  events : List Event
  outcome : Except ε α

namespace Logged

variable {ε α β : Type}

def pure (value : α) : Logged ε α := ⟨[], .ok value⟩

def fail (error : ε) : Logged ε α := ⟨[], .error error⟩

/-- Continues with the result; a failure ends the computation and keeps its events. -/
def bind (first : Logged ε α) (next : α → Logged ε β) : Logged ε β :=
  match first.outcome with
  | .ok value => ⟨first.events ++ (next value).events, (next value).outcome⟩
  | .error error => ⟨first.events, .error error⟩

instance : Monad (Logged ε) where
  pure := Logged.pure
  bind := Logged.bind

def record (event : Event) : Logged ε Unit := ⟨[event], .ok ()⟩

end Logged

end QueryOptions
