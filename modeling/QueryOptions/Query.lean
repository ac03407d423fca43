import QueryOptions.Params

/-!
Whole queries: projection, filter, sort keys, expanded relations, paging and
the address of the resource, and what they compile to.
-/

namespace QueryOptions

structure Query where
  select : Option Select := none
  filter : Filter := {}
  orderBy : OrderBy := []
  expand : List Expand := []
  top : Option Nat := none
  skip : Option Nat := none
  showCount : Bool := false
  /-- Whether paging was asked for; the page window does not depend on it. -/
  pagination : Bool := false
  url : Option String := none
  deriving Repr, Inhabited

namespace Query

/-- A query in the state that the defaults prescribe. -/
def ofDefaults (defaults : Defaults) : Query :=
  { top := defaults.top
    skip := defaults.skip
    showCount := defaults.asksForCount
    pagination := defaults.pagination }

/-- Sets all of the paging and turns pagination on. -/
def paginate (q : Query) (top skip : Option Nat) (showCount : Bool) : Query :=
  { q with top := top, skip := skip, showCount := showCount, pagination := true }

def addSortKey (q : Query) (key : SortKey) : Query := { q with orderBy := q.orderBy ++ [key] }

def addExpand (q : Query) (node : Expand) : Query := { q with expand := q.expand ++ [node] }

def window (q : Query) : Window := ⟨q.top, q.skip, q.showCount⟩

/-- The parameters of the query, with the events of rendering its filters. -/
def assembleLogged (q : Query) : Logged UnterminatedScope Compiled :=
  (expandItems q.expand).bind fun items =>
    q.filter.optionLogged.bind fun condition =>
      .pure (.assemble (q.select.bind Select.render?) (expandOption items) condition
        q.orderBy.option q.window)

/-- Compiles the query; success is recorded once, nested levels are silent. -/
def compileLogged (q : Query) : Logged UnterminatedScope Compiled :=
  q.assembleLogged.bind fun compiled =>
    (Logged.record (.compiled compiled.size (Expand.forestDepth q.expand))).bind fun _ =>
      .pure compiled

def compile (q : Query) : Except UnterminatedScope Compiled := q.compileLogged.outcome

def params (q : Query) : Except UnterminatedScope Params := q.compile.map Params.ofCompiled

/-- Appends the parameters of a query that compiles, and nothing otherwise. -/
def appendTo (q : Query) (p : Params) : Except UnterminatedScope Params := q.compile.map p.extend

def queryString (q : Query) : Except UnterminatedScope String := q.params.map Params.queryString

end Query

end QueryOptions
