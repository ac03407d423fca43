import QueryOptions.Yaml.Indicator

/-!
YAML documents as trees of scalars, sequences and mappings, some of them with a
tag. References are replaced by the nodes that their anchors name.
-/

namespace QueryOptions.Yaml

inductive Node where
  | scalar (style : Style) (text : String)
  | sequence (items : List Node)
  | mapping (entries : List (Node × Node))
  | tagged (tag : String) (content : Node)
  deriving Repr, Inhabited

namespace Node

/-- What stands where nothing is written. -/
def empty : Node := .scalar .plain ""

/-- A node after its anchor. -/
def anchored (d : Dialect) : Node → Node
  | .scalar .quoted "" => if d.anchorsUnquote then .empty else .scalar .quoted ""
  | node => node

/-- A node without its tag. -/
def content : Node → Node
  | .tagged _ node => node
  | node => node

/-- A scalar's text as it is written. -/
def text? (node : Node) : Option String :=
  match node.content with
  | .scalar _ text => some text
  | _ => none

end Node

/-- A node that an anchor names. -/
structure Anchored where
  node : Node
  /-- The number of references to follow in it. -/
  followed : Nat

/-- The tokens that are left, and what has been counted and named so far. -/
structure Remaining where
  tokens : List Token
  /-- Whether the text ends after the tokens. -/
  complete : Bool
  /-- What directives say that handles of tags are short for. -/
  handles : List (String × String) := []
  /-- The nodes that anchors name, latest first; one that is being read is missing. -/
  anchors : List (String × Option Anchored) := []
  /-- The number of scalars and references, and of starts and ends of collections. -/
  size : Nat := 0
  /-- The number of references to follow, also inside each other. -/
  followed : Nat := 0

abbrev Reader := StateT Remaining Option

namespace Reader

/-- The next token, which stays, or nothing at the end of the text. -/
def peek : Reader (Option Token) := fun r =>
  match r.tokens with
  | next :: _ => some (some next, r)
  | [] => if r.complete then some (none, r) else none

def drop : Reader Unit := fun r => some ((), { r with tokens := r.tokens.drop 1 })

/-- Drops the next token if it is the given one. -/
def accept (token : Token) : Reader Bool := do
  if (← peek) = some token then
    drop
    return true
  else return false

def expect (token : Token) : Reader Unit := do
  if !(← accept token) then failure

def count (n : Nat) : Reader Unit := fun r => some ((), { r with size := r.size + n })

/-- Reads what stands where nothing is written. -/
def empty : Reader Node := do
  count 1
  return .empty

/-- Reads a node and lets an anchor name it, if there is one. -/
def anchored (d : Dialect) (anchor : Option String) (read : Reader Node) : Reader Node := do
  match anchor with
  | none => read
  | some name =>
    let before ← modifyGet fun r => (r.followed, { r with anchors := (name, none) :: r.anchors })
    let node := (← read).anchored d
    modify fun r => { r with anchors := (name, some ⟨node, r.followed - before⟩) :: r.anchors }
    return node

/-- Reads a node with a tag, if there is one. -/
def tagged (tag : Option String) (read : Reader Node) : Reader Node := do
  match tag with
  | none => read
  | some tag => return .tagged tag (← read)

/-- Reads the name of an anchor, if there is one. -/
def anchorName? : Reader (Option String) := do
  match ← peek with
  | some (.anchor name) =>
    drop
    return some name
  | _ => return none

/-- The tag that a handle and the rest of an address stand for. -/
def tagOf (name : TagName) : Reader String := do
  match (← get).handles.lookup name.handle, name.handle with
  | some meaning, _ => return meaning ++ name.rest
  | none, "" => return name.rest
  | none, "!" => return ownTags ++ name.rest
  | none, "!!" => return commonTags ++ name.rest
  | none, _ => failure

/-- Reads a tag, if there is one. -/
def tag? : Reader (Option String) := do
  match ← peek with
  | some (.tag name) =>
    drop
    return some (← tagOf name)
  | _ => return none

/-- Reads an anchor and a tag, in any order, if there are any. -/
def properties : Reader (Option String × Option String) := do
  let first ← anchorName?
  let tag ← tag?
  let anchor ← if first.isNone then anchorName? else pure first
  return (anchor, tag)

/-- Follows a reference. -/
def resolve (name : String) : Reader Node := do
  count 1
  match ((← get).anchors.lookup name).join with
  | some target =>
    modify fun r => { r with followed := r.followed + target.followed + 1 }
    return target.node
  | none => failure

end Reader

/-- Whether an entry of a block ends before it has a value. -/
def endsBlockEntry (next : Option Token) : Bool :=
  match next with
  | some .key | some .value | some .blockEnd | none => true
  | _ => false

/-- Whether an entry of a mapping starts with its value. -/
def Dialect.startsKeyless (d : Dialect) (next : Option Token) : Bool :=
  d.keylessValues && next = some .value

section

variable (d : Dialect)

mutual

/-- Reads a node. Inside a block mapping a sequence may stand at the column of the keys. -/
def readNode (fuel : Nat) (block unindented : Bool) : Reader Node :=
  match fuel with
  | 0 => failure
  | fuel + 1 => do
    match ← Reader.peek with
    | some (.reference name) =>
      Reader.drop
      Reader.resolve name
    | _ =>
      let (anchor, tag) ← Reader.properties
      let marked := anchor.isSome || tag.isSome
      Reader.anchored d anchor (Reader.tagged tag (readContent fuel block unindented marked))

/-- Reads a node after its anchor and its tag; only a node that has one may be empty. -/
def readContent (fuel : Nat) (block unindented marked : Bool) : Reader Node :=
  match fuel with
  | 0 => failure
  | fuel + 1 => do
    let otherwise : Reader Node := if marked then Reader.empty else failure
    match ← Reader.peek with
    | some (.scalar style text) =>
      if style = .outdented then failure
      Reader.drop
      Reader.count 1
      return .scalar style text
    | some .openSequence =>
      Reader.drop
      Reader.count 2
      return .sequence (← readItems fuel true)
    | some .openMapping =>
      Reader.drop
      Reader.count 2
      return .mapping (← readPairs fuel true)
    | some .dash =>
      if !unindented then otherwise
      else do
        Reader.count 2
        return .sequence (← readDashes fuel false)
    | some .blockSequence =>
      if !block then otherwise
      else do
        Reader.drop
        Reader.count 2
        return .sequence (← readDashes fuel true)
    | some .blockMapping =>
      if !block then otherwise
      else do
        Reader.drop
        Reader.count 2
        return .mapping (← readEntries fuel)
    | _ => otherwise

/-- Reads the entries of a block sequence; an indented one has a token at its end. -/
def readDashes (fuel : Nat) (indented : Bool) : Reader (List Node) :=
  match fuel with
  | 0 => failure
  | fuel + 1 => do
    if ← Reader.accept .dash then
      let next ← Reader.peek
      let node ← if next = some .dash ∨ endsBlockEntry next then Reader.empty
        else readNode fuel true false
      return node :: (← readDashes fuel indented)
    else
      if indented then Reader.expect .blockEnd
      return []

/-- Reads a key or a value of a block mapping. -/
def readEntryPart (fuel : Nat) : Reader Node :=
  match fuel with
  | 0 => failure
  | fuel + 1 => do
    if endsBlockEntry (← Reader.peek) then Reader.empty else readNode fuel true true

/-- Reads the entries of a block mapping. -/
def readEntries (fuel : Nat) : Reader (List (Node × Node)) :=
  match fuel with
  | 0 => failure
  | fuel + 1 => do
    if ← Reader.accept .blockEnd then return []
    else
      let key ← if d.startsKeyless (← Reader.peek) then Reader.empty else do
        Reader.expect .key
        readEntryPart fuel
      let value ← if ← Reader.accept .value then readEntryPart fuel else Reader.empty
      return (key, value) :: (← readEntries fuel)

/-- Reads a key or a value between brackets. -/
def readPart (fuel : Nat) : Reader Node :=
  match fuel with
  | 0 => failure
  | fuel + 1 => do
    match ← Reader.peek with
    | some .value | some .comma | some .closeSequence | some .closeMapping => Reader.empty
    | _ => readNode fuel false false

/-- Reads the value of a pair between brackets, which may be missing. -/
def readPartValue (fuel : Nat) : Reader Node :=
  match fuel with
  | 0 => failure
  | fuel + 1 => do
    if ← Reader.accept .value then readPart fuel else Reader.empty

/-- Reads the items of a bracketed list; a pair without braces is a mapping of its own. -/
def readItems (fuel : Nat) (first : Bool) : Reader (List Node) :=
  match fuel with
  | 0 => failure
  | fuel + 1 => do
    if ← Reader.accept .closeSequence then return []
    else
      if !first then Reader.expect .comma
      if ← Reader.accept .closeSequence then return []
      else
        let node ← if ← Reader.accept .key then do
            Reader.count 2
            let key ← readPart fuel
            let value ← readPartValue fuel
            pure (.mapping [(key, value)])
          else readNode fuel false false
        return node :: (← readItems fuel false)

/-- Reads the pairs between braces. -/
def readPairs (fuel : Nat) (first : Bool) : Reader (List (Node × Node)) :=
  match fuel with
  | 0 => failure
  | fuel + 1 => do
    if ← Reader.accept .closeMapping then return []
    else
      if !first then Reader.expect .comma
      if ← Reader.accept .closeMapping then return []
      else
        let pair ← if d.startsKeyless (← Reader.peek) then do
            let key ← Reader.empty
            let value ← readPartValue fuel
            pure (key, value)
          else if ← Reader.accept .key then do
            let key ← readPart fuel
            let value ← readPartValue fuel
            pure (key, value)
          else do
            let key ← readNode fuel false false
            let value ← Reader.empty
            pure (key, value)
        return pair :: (← readPairs fuel false)

end

end

end QueryOptions.Yaml
