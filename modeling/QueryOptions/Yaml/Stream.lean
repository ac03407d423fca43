import QueryOptions.Yaml.Node

/-!
Texts of at most one document. Directives may stand before a document, and
marks may stand around it.
-/

namespace QueryOptions.Yaml

def Reader.dropEnds : Reader Unit := fun r =>
  some ((), { r with tokens := r.tokens.dropWhile (· = .documentEnd) })

/-- Keeps what a handle is short for; there may be one directive for each. -/
def Reader.shorten (handle meaning : String) : Reader Unit := fun r =>
  if (r.handles.lookup handle).isSome then none
  else some ((), { r with handles := (handle, meaning) :: r.handles })

/-- Reads directives, of which one may name the version. -/
def readDirectives : Nat → Bool → Reader Unit
  | 0, _ => failure
  | fuel + 1, versioned => do
    match ← Reader.peek with
    | some (.directive kind) =>
      if kind = .version ∧ versioned then failure
      if let .tag handle meaning := kind then Reader.shorten handle meaning
      Reader.drop
      readDirectives fuel (versioned || kind = .version)
    | _ => return ()

/-- Reads the node after the mark that starts a document; it may be missing. -/
def readMarked (d : Dialect) (fuel : Nat) : Reader Node := do
  match ← Reader.peek with
  | none | some .documentStart | some .documentEnd | some (.directive _) => Reader.empty
  | _ => readNode d fuel true false

/-- Reads the first document, if there is one. -/
def readFirst (d : Dialect) (fuel : Nat) : Reader (Option Node) := do
  if d.looseEnds then Reader.dropEnds
  match ← Reader.peek with
  | none => return none
  | some .documentStart | some (.directive _) =>
    readDirectives fuel false
    Reader.expect .documentStart
    return some (← readMarked d fuel)
  | _ => return some (← readNode d fuel true false)

def Token.startsNode : Token → Bool
  | .blockSequence | .blockMapping | .openSequence | .openMapping => true
  | .anchor _ | .tag _ => true
  | .scalar style _ => style ≠ .outdented
  | _ => false

def Token.isDirective : Token → Bool
  | .directive _ => true
  | _ => false

/-- Whether another document starts after one; without a mark it can only start
where a mark has ended the one before. -/
def Remaining.startsAnother (marked : Bool) (r : Remaining) : Bool :=
  let tokens := r.tokens.dropWhile (· = .documentEnd)
  match tokens, tokens.dropWhile Token.isDirective with
  | _, .documentStart :: [] => r.complete
  | _, .documentStart :: next :: _ =>
    next = .documentStart || next = .documentEnd || next.isDirective || next.startsNode
  | next :: _, _ => marked && next.startsNode
  | [], _ => false

/-- Whether a text may end with what follows its document. -/
def Remaining.isIgnored (d : Dialect) (r : Remaining) : Bool :=
  if !d.looseEnds then r.complete && r.tokens.all (· = .documentEnd)
  else match r.tokens with
    | [] => r.complete
    | .documentEnd :: rest => !{ r with tokens := rest }.startsAnother true
    | .directive kind :: _ => kind = .reserved
    | _ => !r.startsAnother false

def Token.isAnchor : Token → Bool
  | .anchor _ => true
  | _ => false

def Token.isReference : Token → Bool
  | .reference _ => true
  | _ => false

/-- The number of references that need no more than one anchor. -/
def freeReferences : Nat := 99

/-- The greatest number of references for each anchor. -/
def referencesPerAnchor : Nat := 10

/-- The greatest number of references to follow for each part of a document. -/
def followedPerPart : Nat := 100

/-- Whether a document with the given tokens has not too many references. -/
def Remaining.fewReferences (rule : ReferenceRule) (own : List Token) (r : Remaining) : Bool :=
  match rule with
  | .byAnchors =>
    let references := own.countP Token.isReference
    references ≤ freeReferences || references ≤ referencesPerAnchor * own.countP Token.isAnchor
  | .bySize => r.followed ≤ followedPerPart * r.size

/-- Reads a text of at most one document. -/
def Node.ofText? (d : Dialect) (text : String) : Option (Option Node) := do
  let list := TokenList.ofText d text
  let (node, left) ← (readFirst d (4 * list.tokens.length + 4)).run
    { tokens := list.tokens, complete := list.complete }
  let own := list.tokens.take (list.tokens.length - left.tokens.length)
  if left.isIgnored d ∧ left.fewReferences d.references own then some node else none

end QueryOptions.Yaml
