import QueryOptions.Literal
import QueryOptions.Text.Join

/-!
The pieces of a filter in the order in which they are written, and their text.

A comparison names a field, an operator and a literal; the three string
functions are written as calls. A comparison carries the `and` or `or` that
follows it directly; after a bracket the combinator is a piece of its own.
-/

namespace QueryOptions

inductive CompareOp where
  | eq | ne | gt | ge | lt | le
  | contains | startsWith | endsWith
  deriving DecidableEq, Repr, Inhabited

namespace CompareOp

def name : CompareOp → String
  | .eq => "eq"
  | .ne => "ne"
  | .gt => "gt"
  | .ge => "ge"
  | .lt => "lt"
  | .le => "le"
  | .contains => "contains"
  | .startsWith => "startsWith"
  | .endsWith => "endsWith"

def all : List CompareOp := [.eq, .ne, .gt, .ge, .lt, .le, .contains, .startsWith, .endsWith]

/-- The string functions are written as calls. -/
def isFunction : CompareOp → Bool
  | .contains | .startsWith | .endsWith => true
  | _ => false

end CompareOp

/-- Which operand is written first. -/
inductive OperandOrder where
  | fieldFirst
  | valueFirst
  deriving DecidableEq, Repr, Inhabited

namespace OperandOrder

def name : OperandOrder → String
  | .fieldFirst => "field_first"
  | .valueFirst => "value_first"

def all : List OperandOrder := [.fieldFirst, .valueFirst]

end OperandOrder

inductive Combinator where
  | and
  | or
  deriving DecidableEq, Repr

def Combinator.text : Combinator → String
  | .and => " and "
  | .or => " or "

structure Comparison where
  field : String
  op : CompareOp
  value : Literal
  order : OperandOrder := .fieldFirst
  deriving DecidableEq, Repr

namespace Comparison

/-- The two operands in the order in which they are written. -/
def operands (c : Comparison) : String × String :=
  match c.order with
  | .fieldFirst => (c.field, c.value.render)
  | .valueFirst => (c.value.render, c.field)

def text (c : Comparison) : String :=
  let (first, second) := c.operands
  if c.op.isFunction then c.op.name ++ "(" ++ first ++ "," ++ second ++ ")"
  else first ++ " " ++ c.op.name ++ " " ++ second

end Comparison

/-- The lambda operators over a collection. -/
inductive Quantifier where
  | any
  | all
  deriving DecidableEq, Repr

inductive ScopeKind where
  | lambda (quantifier : Quantifier)
  | count
  deriving DecidableEq, Repr

def Quantifier.name : Quantifier → String
  | .any => "any"
  | .all => "all"

def ScopeKind.name : ScopeKind → String
  | .lambda quantifier => quantifier.name
  | .count => "count"

inductive Token where
  | comparison (comparison : Comparison) (trailing : Option Combinator)
  | openGroup
  | closeGroup
  | negation
  /-- Opens a lambda scope: `Posts/any(x:`. -/
  | lambdaOpen (relation : String) (quantifier : Quantifier) (bound : String)
  /-- Opens a count scope: `Posts/count(`. -/
  | countOpen (relation : String)
  /-- Introduces the condition inside a count scope. -/
  | countFilter
  | scopeClose
  | combinator (combinator : Combinator)
  deriving DecidableEq, Repr

namespace Token

def text : Token → String
  | .comparison written none => written.text
  | .comparison written (some trailing) => written.text ++ trailing.text
  | .openGroup => "("
  | .closeGroup | .scopeClose => ")"
  | .negation => "Not "
  | .lambdaOpen relation quantifier bound =>
    relation ++ "/" ++ quantifier.name ++ "(" ++ bound ++ ":"
  | .countOpen relation => relation ++ "/count("
  | .countFilter => "$filter="
  | .combinator joined => joined.text

/-- The name of the kind of a token. -/
def tag : Token → String
  | .comparison .. => "expr"
  | .openGroup => "open_group"
  | .closeGroup => "close_group"
  | .negation => "not"
  | .lambdaOpen .. => "lambda_open"
  | .countOpen .. => "count_open"
  | .countFilter => "count_filter"
  | .scopeClose => "scope_close"
  | .combinator _ => "combinator"

end Token

/-- The text of a run of tokens. -/
def tokensText (tokens : List Token) : String := Text.concat (tokens.map Token.text)

@[simp] theorem tokensText_nil : tokensText [] = "" := rfl

@[simp] theorem tokensText_append (first second : List Token) :
    tokensText (first ++ second) = tokensText first ++ tokensText second := by
  simp [tokensText, Text.concat_append]

@[simp] theorem tokensText_singleton (token : Token) : tokensText [token] = token.text := by
  simp [tokensText]

end QueryOptions
