import QueryOptions.Expand

/-!
Compiled queries: the parameters of a query in their fixed order.

A part that is absent or empty has no parameter. Expanded relations are
compiled by the same rules, only without a page window, and their parameters
are written in parentheses after the relation.
-/

namespace QueryOptions

inductive QueryKey where
  | select | expand | filter | orderBy | top | skip | count
  deriving DecidableEq, Repr

def QueryKey.name : QueryKey → String
  | .select => "$select"
  | .expand => "$expand"
  | .filter => "$filter"
  | .orderBy => "$orderby"
  | .top => "$top"
  | .skip => "$skip"
  | .count => "$count"

/-- Paging, which only a whole query has. -/
structure Window where
  top : Option Nat := none
  skip : Option Nat := none
  count : Bool := false
  deriving DecidableEq, Repr

structure Compiled where
  pairs : List (QueryKey × String) := []
  deriving DecidableEq, Repr

namespace Compiled

def get? (c : Compiled) (key : QueryKey) : Option String :=
  (c.pairs.find? fun pair => pair.1 = key).map Prod.snd

def keys (c : Compiled) : List QueryKey := c.pairs.map Prod.fst

def size (c : Compiled) : Nat := c.pairs.length

def isEmpty (c : Compiled) : Bool := c.pairs.isEmpty

/-- The parameters as they stand in the parentheses of an expanded relation. -/
def nestedText (c : Compiled) : String :=
  Text.join ";" (c.pairs.map fun (key, value) => key.name ++ "=" ++ value)

end Compiled

/-- A parameter that is there if its part is. -/
def parameter (key : QueryKey) (value : Option String) : List (QueryKey × String) :=
  value.toList.map fun value => (key, value)

def Window.parameters (w : Window) : List (QueryKey × String) :=
  parameter .top (w.top.map Decimal.natText) ++ parameter .skip (w.skip.map Decimal.natText) ++
    parameter .count (if w.count then some "true" else none)

/-- A filter's text if it has tokens. -/
def Filter.optionLogged (f : Filter) : Logged UnterminatedScope (Option String) :=
  if f.isEmpty then .pure none else f.renderLogged.bind fun text => .pure (some text)

def OrderBy.option (keys : OrderBy) : Option String :=
  if keys.isEmpty then none else some keys.text

/-- Puts the parameters into their order. -/
def Compiled.assemble (select expand filter orderBy : Option String) (window : Window) : Compiled :=
  ⟨parameter .select select ++ parameter .expand expand ++ parameter .filter filter ++
    parameter .orderBy orderBy ++ window.parameters⟩

/-- The text of expanded relations side by side. -/
def expandOption (items : List String) : Option String :=
  if items.isEmpty then none else some (Text.join "," items)

/-- A relation, with its parameters in parentheses if it has any. -/
def expandItem (relation : String) (options : Compiled) : String :=
  if options.isEmpty then relation else relation ++ "(" ++ options.nestedText ++ ")"

mutual

/-- The parameters of one expanded relation. -/
def Expand.options : Expand → Logged UnterminatedScope Compiled
  | ⟨_, select, filter, orderBy, children⟩ =>
    (expandItems children).bind fun items =>
      filter.optionLogged.bind fun condition =>
        .pure (.assemble select.render? (expandOption items) condition orderBy.option {})

/-- The texts of expanded relations, from left to right. -/
def expandItems : List Expand → Logged UnterminatedScope (List String)
  | [] => .pure []
  | node :: rest =>
    node.options.bind fun options =>
      (expandItems rest).bind fun items => .pure (expandItem node.relation options :: items)

end

end QueryOptions
