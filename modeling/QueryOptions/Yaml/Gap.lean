import QueryOptions.Yaml.Cursor

/-!
White space between two words of a scalar, and how it folds.
-/

namespace QueryOptions.Yaml

/-- White space between two words of a scalar. -/
structure Gap where
  /-- Whether a line has ended; blanks at the start of a line do not count. -/
  ended : Bool := false
  /-- The blanks, as long as no line has ended. -/
  blanks : List Char := []
  /-- The first line break, if it counts. -/
  first : List Char := []
  /-- The line breaks after it. -/
  more : List Char := []
  deriving DecidableEq, Repr

/-- What becomes of a tab left of the column where the words may stand. -/
inductive TabRule where
  | skipped
  | onEmptyLines
  | refused
  deriving DecidableEq, Repr

namespace Gap

/-- A single line feed reads as a space, and of several breaks the first is
dropped if it is a line feed. -/
def text (g : Gap) : List Char :=
  if !g.ended then g.blanks
  else if g.first = ['\n'] then
    if g.more.isEmpty then [' '] else g.more
  else g.first ++ g.more

/-- The gap with one character more. -/
def push (isBreak : Bool) (char : Char) (g : Gap) : Gap :=
  if isBreak then
    if g.ended then { g with more := g.more ++ [char] }
    else { g with ended := true, blanks := [], first := [char] }
  else if g.ended then g
  else { g with blanks := g.blanks ++ [char] }

end Gap

/-- Reads white space on from a gap, up to the next word. Each round takes a
character or a comment, so the length of the text is fuel enough. -/
def Cursor.readGap (tabs : TabRule) (column : Int) :
    Nat → Gap → Cursor → Option (Gap × Cursor)
  | 0, _, _ => none
  | fuel + 1, gap, c =>
    match c.rest with
    | [] => some (gap, c)
    | char :: _ =>
      if !c.dialect.isSpace char then some (gap, c)
      else if char = '\t' ∧ gap.ended ∧ c.column < column ∧ tabs ≠ .skipped then
        match tabs, c.skipBlanks with
        | .onEmptyLines, some after =>
          if after.atLineEnd then readGap tabs column fuel gap after else none
        | _, _ => none
      else readGap tabs column fuel (gap.push (c.dialect.isBreak char) char) c.step

/-- The white space at a place, and the place after it. -/
def Cursor.gap (tabs : TabRule) (column : Int) (gap : Gap) (c : Cursor) : Option (Gap × Cursor) :=
  c.readGap tabs column (c.rest.length + 1) gap

end QueryOptions.Yaml
