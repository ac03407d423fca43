import QueryOptions.Compiled
import QueryOptions.Params.Percent

/-!
Request parameters: an append-only list of raw keys and values in which keys
may repeat, and its query string.
-/

namespace QueryOptions

structure Params where
  pairs : List (String × String) := []
  deriving DecidableEq, Repr

namespace Params

def append (p : Params) (key value : String) : Params := ⟨p.pairs ++ [(key, value)]⟩

/-- The first value stored under a key. -/
def get? (p : Params) (key : String) : Option String :=
  (p.pairs.find? fun pair => pair.1 = key).map Prod.snd

def getAll (p : Params) (key : String) : List String :=
  (p.pairs.filter fun pair => pair.1 = key).map Prod.snd

def keys (p : Params) : List String := p.pairs.map Prod.fst

def size (p : Params) : Nat := p.pairs.length

def isEmpty (p : Params) : Bool := p.pairs.isEmpty

/-- Appends every parameter of a compiled query. -/
def extend (p : Params) (compiled : Compiled) : Params :=
  compiled.pairs.foldl (fun params pair => params.append pair.1.name pair.2) p

def ofCompiled (compiled : Compiled) : Params := Params.extend {} compiled

/-- The pieces `key=value` between `&`, every component percent-encoded. -/
def queryString (p : Params) : String :=
  Text.join "&" (p.pairs.map fun (key, value) =>
    Percent.encodeComponent key ++ "=" ++ Percent.encodeComponent value)

end Params

end QueryOptions
