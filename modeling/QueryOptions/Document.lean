import QueryOptions.Calendar.Reader
import QueryOptions.Query

/-!
Query documents: the calls that build a query, written down as data.

A document has sections for the parts of a query; a filter is a list of steps,
and an expanded relation has the same sections except paging.
-/

namespace QueryOptions

/-- A scalar as it stands in a document. -/
inductive DocumentValue where
  | bool (value : Bool)
  | integer (n : Int)
  | float (x : Decimal.Binary64)
  | dateTime (time : Calendar.ZonedTime)
  | text (value : String)
  deriving DecidableEq, Repr

namespace DocumentValue

def literal : DocumentValue → Literal
  | .bool value => .bool value
  | .integer n => .ofInt n
  | .float x => .float x
  | .dateTime time => .ofZonedTime time
  | .text value => .text value

/-- Text that is a date-time stands for its instant. -/
def ofText (value : String) : DocumentValue :=
  match Calendar.ZonedTime.read? value.toList with
  | some time => .dateTime time
  | none => .text value

/-- A whole number beyond the signed 64-bit range is rounded to a floating point number. -/
def ofInt (n : Int) : DocumentValue :=
  if Decimal.leastSigned ≤ n ∧ n ≤ Decimal.greatestSigned then .integer n
  else .float (.ofDecimal (n < 0) n.natAbs 0)

end DocumentValue

structure StepComparison where
  field : String
  op : CompareOp
  value : DocumentValue
  order : OperandOrder := .fieldFirst
  negate : Bool := false
  deriving DecidableEq, Repr

/-- One step in building a filter. -/
inductive FilterStep where
  | compare (comparison : StepComparison)
  | not
  | combine (combinator : Combinator)
  | openGroup
  | closeGroup
  | beginLambda (quantifier : Quantifier) (relation : String)
  | beginCount (relation : String)
  | endLambda (quantifier : Quantifier)
  | endCount (op : CompareOp) (value : DocumentValue)
  deriving DecidableEq, Repr

def FilterStep.name : FilterStep → String
  | .compare _ => "compare"
  | .not => "not"
  | .combine .and => "and"
  | .combine .or => "or"
  | .openGroup => "open_group"
  | .closeGroup => "close_group"
  | .beginLambda .any _ => "begin_any"
  | .beginLambda .all _ => "begin_all"
  | .beginCount _ => "begin_count"
  | .endLambda .any => "end_any"
  | .endLambda .all => "end_all"
  | .endCount .. => "end_count"

structure ExpandDocument where
  relation : String
  select : Option Select := none
  filter : List FilterStep := []
  orderBy : List SortKey := []
  expand : List ExpandDocument := []
  deriving Repr, Inhabited

structure Document where
  url : Option String := none
  select : Option Select := none
  filter : List FilterStep := []
  orderBy : List SortKey := []
  expand : List ExpandDocument := []
  top : Option Nat := none
  skip : Option Nat := none
  count : Option Bool := none
  pagination : Option Bool := none
  deriving Repr, Inhabited

end QueryOptions
