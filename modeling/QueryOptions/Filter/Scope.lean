import QueryOptions.Filter.Token

/-!
The stack of open scopes. A lambda scope binds a variable that qualifies the
names inside it; a count scope binds none and owes the text `$filter=` until
its first operand.

Variables are taken in order of opening, over closed scopes too, so no two
lambdas of one filter share a name.
-/

namespace QueryOptions

inductive ScopeFrame where
  | lambda (quantifier : Quantifier) (bound : String)
  /-- The flag `filterPending` holds until the condition inside has been introduced. -/
  | count (filterPending : Bool)
  deriving DecidableEq, Repr

namespace ScopeFrame

def kind : ScopeFrame → ScopeKind
  | .lambda quantifier _ => .lambda quantifier
  | .count _ => .count

def bound? : ScopeFrame → Option String
  | .lambda _ bound => some bound
  | .count _ => none

end ScopeFrame

/-- Why a scope cannot be closed. -/
inductive CloseError where
  /-- No scope is open. -/
  | underflow (close : ScopeKind)
  /-- The innermost scope is of another kind. -/
  | mismatch (close innermost : ScopeKind)
  deriving DecidableEq, Repr

def CloseError.message : CloseError → String
  | .underflow close => "cannot close " ++ close.name ++ "(): no lambda scope is open"
  | .mismatch close innermost =>
    "cannot close " ++ close.name ++ "(): innermost open scope is " ++ innermost.name ++ "()"

/-- The letters that name lambda variables, in the order in which they are taken. -/
def variableLetters : List Char := "xyzabcdefghijklmnopqrstuvw".toList

/-- The name of a lambda's variable: a letter, then in later rounds the letter and the round. -/
def variableName (index : Nat) : String :=
  let letter := String.ofList [variableLetters.getD (index % 26) 'x']
  match index / 26 with
  | 0 => letter
  | round + 1 => letter ++ Decimal.natText (round + 1)

/-- The open scopes, innermost first, and how many lambdas were opened so far. -/
structure ScopeStack where
  frames : List ScopeFrame := []
  lambdasOpened : Nat := 0
  deriving DecidableEq, Repr, Inhabited

namespace ScopeStack

def innermost (s : ScopeStack) : Option ScopeFrame := s.frames.head?

def depth (s : ScopeStack) : Nat := s.frames.length

def isEmpty (s : ScopeStack) : Bool := s.frames.isEmpty

/-- The variable that the next lambda will bind. -/
def nextVariable (s : ScopeStack) : String := variableName s.lambdasOpened

def pushLambda (s : ScopeStack) (quantifier : Quantifier) : ScopeStack :=
  ⟨.lambda quantifier s.nextVariable :: s.frames, s.lambdasOpened + 1⟩

def pushCount (s : ScopeStack) : ScopeStack := { s with frames := .count true :: s.frames }

/-- Closes the innermost scope, which has to be of the given kind. -/
def close (s : ScopeStack) (kind : ScopeKind) : Except CloseError ScopeStack :=
  match s.frames with
  | [] => .error (.underflow kind)
  | frame :: frames =>
    if frame.kind = kind then .ok { s with frames := frames }
    else .error (.mismatch kind frame.kind)

/-- A name as it is written inside the innermost scope. -/
def qualify (s : ScopeStack) (name : String) : String :=
  match s.innermost.bind ScopeFrame.bound? with
  | some bound => bound ++ "/" ++ name
  | none => name

/-- Whether the innermost scope still owes its `$filter=`. -/
def filterPending (s : ScopeStack) : Bool :=
  match s.frames with
  | .count true :: _ => true
  | _ => false

/-- The stack after the innermost scope has had its `$filter=`. -/
def settle (s : ScopeStack) : ScopeStack :=
  match s.frames with
  | .count true :: frames => { s with frames := .count false :: frames }
  | _ => s

end ScopeStack

end QueryOptions
