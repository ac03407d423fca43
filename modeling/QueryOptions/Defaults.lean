/-!
The initial paging state of new queries.
-/

namespace QueryOptions

structure Defaults where
  top : Option Nat := none
  skip : Option Nat := none
  /-- Marks new queries as paginated and turns their total count on. -/
  pagination : Bool := false
  showCount : Bool := false
  deriving DecidableEq, Repr, Inhabited

/-- Whether new queries ask for the total count. -/
def Defaults.asksForCount (d : Defaults) : Bool := d.pagination || d.showCount

end QueryOptions
