import QueryOptions.Document
import QueryOptions.Shape

/-!
The shape of query documents. What a document holds is the same in every
notation for it; a notation says how its nodes give scalars, lists, records
and choices.
-/

namespace QueryOptions

open Shape

/-- How a notation gives the kinds of value that documents consist of. -/
structure Format (ν : Type) (m : Type → Type) where
  string : ν → m String
  bool : ν → m Bool
  unsigned : ν → m Nat
  value : ν → m DocumentValue
  select : ν → m Select
  option : {α : Type} → (ν → m α) → ν → m (Option α)
  list : {α : Type} → (ν → m α) → ν → m (List α)
  record : {σ : Type} → String → List (Field ν m σ) → σ → ν → m σ
  choice : {α : Type} → List (String × Variant ν m α) → ν → m α
  /-- What is read where expanded relations are nested too deep. -/
  tooDeep : {α : Type} → ν → m α

/-- What has been read of a comparison. -/
structure ComparisonDraft where
  field : String := ""
  op : CompareOp := .eq
  value : DocumentValue := .bool false
  order : OperandOrder := .fieldFirst
  negate : Bool := false

def ComparisonDraft.comparison (draft : ComparisonDraft) : StepComparison :=
  ⟨draft.field, draft.op, draft.value, draft.order, draft.negate⟩

namespace Format

variable {ν : Type} {m : Type → Type} [Functor m] (f : Format ν m)

/-- A choice between values by their names. -/
def name {α : Type} (values : List α) (name : α → String) : ν → m α :=
  f.choice (values.map fun value => (name value, .bare value))

def compareOp : ν → m CompareOp := f.name CompareOp.all CompareOp.name

def operandOrder : ν → m OperandOrder := f.name OperandOrder.all OperandOrder.name

def sortDirection : ν → m SortDirection := f.name SortDirection.all SortDirection.name

def comparisonFields : List (Field ν m ComparisonDraft) :=
  [field "field" true f.string fun draft field => { draft with field := field },
   field "op" true f.compareOp fun draft op => { draft with op := op },
   field "value" true f.value fun draft value => { draft with value := value },
   field "order" false f.operandOrder fun draft order => { draft with order := order },
   field "negate" false f.bool fun draft negate => { draft with negate := negate }]

def comparison (node : ν) : m StepComparison :=
  ComparisonDraft.comparison <$> f.record "Comparison" f.comparisonFields {} node

def countFields : List (Field ν m (CompareOp × DocumentValue)) :=
  [field "op" true f.compareOp fun draft op => (op, draft.2),
   field "value" true f.value fun draft value => (draft.1, value)]

def countComparison : ν → m (CompareOp × DocumentValue) :=
  f.record "CountComparison" f.countFields (.eq, .bool false)

def stepVariants : List (String × Variant ν m FilterStep) :=
  [("compare", .carrying fun node => .compare <$> f.comparison node),
   ("not", .bare .not),
   ("and", .bare (.combine .and)),
   ("or", .bare (.combine .or)),
   ("open_group", .bare .openGroup),
   ("close_group", .bare .closeGroup),
   ("begin_any", .carrying fun node => .beginLambda .any <$> f.string node),
   ("begin_all", .carrying fun node => .beginLambda .all <$> f.string node),
   ("begin_count", .carrying fun node => .beginCount <$> f.string node),
   ("end_any", .bare (.endLambda .any)),
   ("end_all", .bare (.endLambda .all)),
   ("end_count", .carrying fun node =>
      (fun (op, value) => .endCount op value) <$> f.countComparison node)]

def step : ν → m FilterStep := f.choice f.stepVariants

def sortKeyFields : List (Field ν m SortKey) :=
  [field "field" true f.string fun draft field => { draft with field := field },
   field "dir" false f.sortDirection fun draft direction => { draft with direction := direction }]

def sortKey : ν → m SortKey := f.record "SortKey" f.sortKeyFields { field := "" }

/-- The fields of an expanded relation, given how to read the ones below it. -/
def expandFields (below : ν → m ExpandDocument) : List (Field ν m ExpandDocument) :=
  [field "relation" true f.string fun draft relation => { draft with relation := relation },
   field "select" false (f.option f.select) fun draft select => { draft with select := select },
   field "filter" false (f.list f.step) fun draft filter => { draft with filter := filter },
   field "order_by" false (f.list f.sortKey) fun draft orderBy => { draft with orderBy := orderBy },
   field "expand" false (f.list below) fun draft expand => { draft with expand := expand }]

/-- An expanded relation, with `levels` levels of them at most. -/
def expand : Nat → ν → m ExpandDocument
  | 0 => f.tooDeep
  | levels + 1 => f.record "ExpandDocument" (f.expandFields (expand levels)) { relation := "" }

def documentFields (levels : Nat) : List (Field ν m Document) :=
  [field "url" false (f.option f.string) fun draft url => { draft with url := url },
   field "select" false (f.option f.select) fun draft select => { draft with select := select },
   field "filter" false (f.list f.step) fun draft filter => { draft with filter := filter },
   field "order_by" false (f.list f.sortKey) fun draft orderBy => { draft with orderBy := orderBy },
   field "expand" false (f.list (f.expand levels)) fun draft expand =>
     { draft with expand := expand },
   field "top" false (f.option f.unsigned) fun draft top => { draft with top := top },
   field "skip" false (f.option f.unsigned) fun draft skip => { draft with skip := skip },
   field "count" false (f.option f.bool) fun draft count => { draft with count := count },
   field "pagination" false (f.option f.bool) fun draft pagination =>
     { draft with pagination := pagination }]

/-- A query document whose expanded relations are nested at most `levels` deep. -/
def document (levels : Nat) : ν → m Document :=
  f.record "QueryDocument" (f.documentFields levels) {}

def defaultsFields : List (Field ν m Defaults) :=
  [field "default_top" false (f.option f.unsigned) fun draft top => { draft with top := top },
   field "default_skip" false (f.option f.unsigned) fun draft skip => { draft with skip := skip },
   field "pagination_enabled" false f.bool fun draft pagination =>
     { draft with pagination := pagination },
   field "default_show_count" false f.bool fun draft showCount =>
     { draft with showCount := showCount }]

def defaults : ν → m Defaults := f.record "QueryDefaults" f.defaultsFields {}

end Format

end QueryOptions
