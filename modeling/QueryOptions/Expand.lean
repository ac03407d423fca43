import QueryOptions.Filter.Call
import QueryOptions.OrderBy
import QueryOptions.Select

/-!
Expanded relations. Each node of the tree has a projection, a filter and sort
keys of its own, and the relations expanded below it.
-/

namespace QueryOptions

structure Expand where
  relation : String
  select : Select := .empty
  filter : Filter := {}
  orderBy : OrderBy := []
  children : List Expand := []
  deriving Repr, Inhabited

namespace Expand

def ofRelation (relation : String) : Expand := { relation := relation }

/-- Adds fields to the projection; repeated calls accumulate. -/
def addSelect (node : Expand) (select : Select) : Expand :=
  { node with select := node.select.extend select }

def addSortKey (node : Expand) (key : SortKey) : Expand :=
  { node with orderBy := node.orderBy ++ [key] }

def addChild (node child : Expand) : Expand := { node with children := node.children ++ [child] }

mutual

/-- The levels of nesting below and including a node. -/
def depth : Expand → Nat
  | ⟨_, _, _, _, children⟩ => 1 + forestDepth children

/-- The levels of nesting of nodes side by side. -/
def forestDepth : List Expand → Nat
  | [] => 0
  | node :: rest => max node.depth (forestDepth rest)

end

end Expand

end QueryOptions
