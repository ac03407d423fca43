import QueryOptions.Text.Join

/-!
Sort keys, in the order in which they apply.
-/

namespace QueryOptions

inductive SortDirection where
  | asc
  | desc
  deriving DecidableEq, Repr

namespace SortDirection

def name : SortDirection → String
  | .asc => "asc"
  | .desc => "desc"

def all : List SortDirection := [.asc, .desc]

end SortDirection

structure SortKey where
  field : String
  direction : SortDirection := .asc
  deriving DecidableEq, Repr

def SortKey.text (key : SortKey) : String := key.field ++ " " ++ key.direction.name

abbrev OrderBy := List SortKey

def OrderBy.text (keys : OrderBy) : String := Text.join "," (keys.map SortKey.text)

end QueryOptions
