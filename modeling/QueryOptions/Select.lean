import QueryOptions.Text.Join

/-!
Projections: the fields that a query asks for, as one comma-separated text or
as a list. Both are written as they are; an empty one is left out.
-/

namespace QueryOptions

inductive Select where
  /-- Used as it stands, such as `Id,Name` or `*`. -/
  | raw (text : String)
  | fields (names : List String)
  deriving DecidableEq, Repr

namespace Select

def empty : Select := .fields []

instance : Inhabited Select := ⟨empty⟩

/-- The entries as given; a text counts as one. -/
def entries : Select → List String
  | .raw text => [text]
  | .fields names => names

def isEmpty : Select → Bool
  | .raw text => text.isEmpty
  | .fields names => names.isEmpty

/-- Appends the entries of another projection. -/
def extend (select more : Select) : Select := .fields (select.entries ++ more.entries)

/-- The text of a projection that is not empty. -/
def render? (select : Select) : Option String :=
  if select.isEmpty then none else some (Text.join "," select.entries)

end Select

end QueryOptions
