import QueryOptions.Yaml.Cursor
import QueryOptions.Yaml.Token

/-!
The layout of a YAML text up to a place: the tokens before it, the columns of
the blocks around it and the brackets that are open.

Whether a scalar is a key shows only at the colon after it. Until then its
place is kept as a candidate, and the key's tokens are put in there later.
-/

namespace QueryOptions.Yaml

structure Level where
  column : Int
  /-- Whether a block collection stands at this column; otherwise it is the least
  column for what belongs to the entry of one. -/
  block : Bool
  deriving Repr

/-- A place where a key may have started. -/
structure Candidate where
  /-- The number of tokens before it. -/
  token : Nat
  line : Nat
  column : Nat
  index : Nat
  /-- The block around it allows nothing but a key here. -/
  required : Bool
  deriving Repr

structure Layout where
  place : Cursor
  tokens : Array Token := #[]
  /-- The levels of indentation, innermost first. -/
  levels : List Level := []
  candidate : Option Candidate := none
  /-- The candidates outside the open brackets, one for each, innermost first. -/
  outer : List (Option Candidate) := []
  /-- Whether a key can start here. -/
  keyAllowed : Bool := true
  /-- Where a colon marks a value whatever follows it. -/
  adjacent : Option Nat := none
  /-- For each open bracketed list, whether a pair without braces is open in it. -/
  pairs : List Bool := []
  /-- Whether a brace was opened since a pair without braces was closed. -/
  braced : Bool := false
  /-- The line on which a comment follows a plain scalar that is the last token. -/
  commented : Option Nat := none
  deriving Repr

namespace Layout

def dialect (s : Layout) : Dialect := s.place.dialect

/-- The column of the innermost level. -/
def indent (s : Layout) : Int :=
  match s.levels with
  | [] => -1
  | level :: _ => level.column

def inBrackets (s : Layout) : Bool := !s.outer.isEmpty

def push (token : Token) (s : Layout) : Layout := { s with tokens := s.tokens.push token }

/-- Leaves the levels right of a column: those that stay, and the blocks left. -/
def leave (column : Int) : List Level → List Level × Nat
  | [] => ([], 0)
  | level :: rest =>
    if column < level.column then
      let (kept, blocks) := leave column rest
      (kept, if level.block then blocks + 1 else blocks)
    else (level :: rest, 0)

/-- Ends the blocks right of a column. -/
def closeTo (column : Int) (s : Layout) : Layout :=
  if s.inBrackets then s
  else
    let (kept, blocks) := leave column s.levels
    { s with levels := kept, tokens := s.tokens ++ Array.replicate blocks .blockEnd }

/-- Whether the innermost level is that of a block. -/
def inBlock (s : Layout) : Bool :=
  match s.levels with
  | [] => false
  | level :: _ => level.block

/-- What follows belongs to the entry of the innermost block. -/
def enterEntry (s : Layout) : Layout :=
  if !s.inBrackets && s.inBlock then { s with levels := ⟨s.indent + 1, false⟩ :: s.levels } else s

/-- Drops the levels inside the innermost block. -/
def dropEntries (s : Layout) : Layout := { s with levels := s.levels.dropWhile fun l => !l.block }

/-- Starts a block at a column unless one stands there; its token comes after
the given number of tokens. -/
def openBlock (column position : Nat) (token : Token) (s : Layout) : Layout :=
  if s.inBrackets then s
  else
    let s := if s.indent ≤ column ∧ !s.inBlock then { s with levels := s.levels.drop 1 } else s
    if s.indent < column then
      { s with
        levels := ⟨column, true⟩ :: s.levels
        tokens := s.tokens.insertIdxIfInBounds position token }
    else s

/-- Notes that a key may start here. -/
def offerKey (s : Layout) : Layout :=
  if s.keyAllowed then
    let required := !s.inBrackets && s.inBlock && s.indent = s.place.column
    let place := s.place
    { s with candidate := some ⟨s.tokens.size, place.line, place.column, place.index, required⟩ }
  else s

/-- Gives the candidate up; a required one is missed. -/
def dropKey (s : Layout) : Option Layout :=
  match s.candidate with
  | some c => if c.required then none else some { s with candidate := none }
  | none => some s

/-- The greatest distance between the start of a key and its colon. -/
def longestKey : Nat := 1024

/-- Where a key may not be wide, it and its colon stand on one line, not too far apart. -/
def expireKey (s : Layout) : Option Layout :=
  match s.candidate with
  | some c =>
    let wide := s.inBrackets && s.dialect.wideKeys
    if !wide ∧ (c.line < s.place.line ∨ c.index + longestKey < s.place.index) then s.dropKey
    else some s
  | none => some s

/-- The tokens that stay as they are, because none of them can still become a key. -/
def settled (s : Layout) : List Token :=
  let now := s.expireKey.getD s
  let candidates := (now.candidate :: now.outer).filterMap fun c => c.map Candidate.token
  s.tokens.toList.take (candidates.foldl min s.tokens.size)

def atKey (allowed : Bool) (s : Layout) : Layout := { s with keyAllowed := allowed }

def moveTo (place : Cursor) (s : Layout) : Layout := { s with place := place }

/-- Ends a pair without braces at a comma or at the end of its list. -/
def endPair (s : Layout) : Layout :=
  match s.pairs with
  | true :: rest => { s.push .closeMapping with pairs := false :: rest, braced := false }
  | _ => s

/-- Skips blanks and a comment after an indicator. -/
def skipAfter (s : Layout) : Option Layout := s.place.skipBlanks.map fun place => s.moveTo place

end Layout

end QueryOptions.Yaml
