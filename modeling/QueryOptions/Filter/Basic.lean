import QueryOptions.Event
import QueryOptions.Filter.Scope

/-!
Filters and the operations that extend them.

A filter is its tokens together with the stack of open scopes and a count of
open groups. Scopes decide how names are qualified and have to be closed
before the filter is rendered; groups are only counted, and a count other
than zero is reported.
-/

namespace QueryOptions

structure Filter where
  tokens : List Token := []
  scopes : ScopeStack := {}
  /-- Opened minus closed groups. -/
  openGroups : Int := 0
  deriving DecidableEq, Repr, Inhabited

/-- A filter was to be rendered while scopes were open. -/
structure UnterminatedScope where
  innermost : ScopeKind
  depth : Nat
  deriving DecidableEq, Repr

def UnterminatedScope.message (e : UnterminatedScope) : String :=
  "$filter has " ++ Decimal.natText e.depth ++ " unterminated scope(s), innermost is " ++
    e.innermost.name ++ "()"

namespace Filter

def isEmpty (f : Filter) : Bool := f.tokens.isEmpty

/-- The text of all tokens so far, whether or not scopes are open. -/
def text (f : Filter) : String := tokensText f.tokens

def append (f : Filter) (token : Token) : Filter := { f with tokens := f.tokens ++ [token] }

/-- Introduces the condition of an innermost count scope if that is still owed. -/
def introduce (f : Filter) : Filter :=
  if f.scopes.filterPending then
    { f with tokens := f.tokens ++ [.countFilter], scopes := f.scopes.settle }
  else f

/-- Adds a comparison, its field qualified by the innermost scope. -/
def compare (f : Filter) (comparison : Comparison) (negated : Bool) : Filter :=
  let opened := f.introduce
  let marked := if negated then opened.append .negation else opened
  marked.append (.comparison { comparison with field := f.scopes.qualify comparison.field } none)

/-- Negates whatever operand comes next. -/
def negateNext (f : Filter) : Filter := f.introduce.append .negation

def beginLambda (f : Filter) (quantifier : Quantifier) (relation : String) : Filter :=
  let opened := f.introduce
  let token := Token.lambdaOpen (f.scopes.qualify relation) quantifier f.scopes.nextVariable
  { opened.append token with scopes := opened.scopes.pushLambda quantifier }

/-- Opens a count scope; names inside it are not qualified. -/
def beginCount (f : Filter) (relation : String) : Filter :=
  let opened := f.introduce
  { opened.append (.countOpen (f.scopes.qualify relation)) with
    scopes := opened.scopes.pushCount }

def openGroup (f : Filter) : Filter :=
  let opened := f.introduce.append .openGroup
  { opened with openGroups := opened.openGroups + 1 }

def closeGroup (f : Filter) : Filter :=
  { f.append .closeGroup with openGroups := f.openGroups - 1 }

/-- Attaches a combinator to a comparison that ends the filter, and adds it as
a token after anything else. -/
def combine (f : Filter) (combinator : Combinator) : Filter :=
  match f.tokens.getLast? with
  | some (.comparison comparison _) =>
    { f with tokens := f.tokens.dropLast ++ [.comparison comparison (some combinator)] }
  | _ => f.append (.combinator combinator)

def closeScope (f : Filter) (kind : ScopeKind) : Except CloseError Filter :=
  match f.scopes.close kind with
  | .ok scopes => .ok { f.append .scopeClose with scopes := scopes }
  | .error error => .error error

/-- Closes a count scope and compares the count. -/
def closeCount (f : Filter) (op : CompareOp) (value : Literal) : Except CloseError Filter :=
  match f.closeScope .count with
  | .ok closed => .ok (closed.append (.comparison ⟨"", op, value, .fieldFirst⟩ none))
  | .error error => .error error

/-- The filter's text, once no scope is open; open groups are reported. -/
def renderLogged (f : Filter) : Logged UnterminatedScope String :=
  match f.scopes.innermost with
  | some frame => .fail ⟨frame.kind, f.scopes.depth⟩
  | none => ⟨if f.openGroups = 0 then [] else [.unbalancedGroups f.openGroups], .ok f.text⟩

def render (f : Filter) : Except UnterminatedScope String := f.renderLogged.outcome

end Filter

end QueryOptions
