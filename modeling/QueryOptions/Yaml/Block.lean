import QueryOptions.Decimal.Digits
import QueryOptions.Text.Blank
import QueryOptions.Yaml.Cursor
import QueryOptions.Yaml.Token

/-!
Block scalars: indented lines taken as they are, or folded. The header says
what becomes of the line breaks at the end, and may give the indentation.
-/

namespace QueryOptions.Yaml

/-- What becomes of the line breaks at the end. -/
inductive Chomping where
  | strip
  | clip
  | keep
  deriving DecidableEq, Repr

structure BlockHeader where
  folded : Bool
  chomping : Chomping := .clip
  /-- The indentation in excess of the block around, if it is given. -/
  indent : Option Nat := none
  deriving DecidableEq, Repr

def chompingOf? : Char → Option Chomping
  | '-' => some .strip
  | '+' => some .keep
  | _ => none

/-- The signs after the indicator, in either order, and how many there are. -/
def readHeader? (folded : Bool) : List Char → Option (BlockHeader × Nat)
  | first :: second :: _ =>
    match chompingOf? first, Decimal.readNat? 10 [first] with
    | some chomping, _ =>
      match Decimal.readNat? 10 [second] with
      | some 0 => none
      | some indent => some (⟨folded, chomping, some indent⟩, 2)
      | none => some (⟨folded, chomping, none⟩, 1)
    | none, some 0 => none
    | none, some indent =>
      match chompingOf? second with
      | some chomping => some (⟨folded, chomping, some indent⟩, 2)
      | none => some (⟨folded, .clip, some indent⟩, 1)
    | none, none => some (⟨folded, .clip, none⟩, 0)
  | [only] =>
    match chompingOf? only, Decimal.readNat? 10 [only] with
    | some chomping, _ => some (⟨folded, chomping, none⟩, 1)
    | none, some 0 => none
    | none, some indent => some (⟨folded, .clip, some indent⟩, 1)
    | none, none => some (⟨folded, .clip, none⟩, 0)
  | [] => some (⟨folded, .clip, none⟩, 0)

/-- Empty lines before a line of a block scalar. -/
structure EmptyLines where
  /-- Their line breaks. -/
  breaks : List Char
  /-- The greatest column that was reached. -/
  greatest : Nat
  /-- The place after the spaces of the next line. -/
  place : Cursor

/-- Skips empty lines and the spaces of the next line, up to a column if one is
given; left of it only some readers allow tabs. -/
def skipEmptyLines (column : Option Nat) : Nat → Cursor → Option EmptyLines
  | 0, _ => none
  | fuel + 1, c =>
    let spaces := (c.rest.takeWhile (· = ' ')).length
    let after := c.skip (match column with
      | some column => min spaces (column - c.column)
      | none => spaces)
    match after.rest with
    | [] => some ⟨[], after.column, after⟩
    | char :: _ =>
      if c.dialect.isBreak char then do
        let found ← skipEmptyLines column fuel after.step
        some ⟨char :: found.breaks, max after.column found.greatest, found.place⟩
      else if char = '\t' ∧ !c.dialect.strict ∧ column.all (after.column < ·) then none
      else some ⟨[], after.column, after⟩

/-- What stands before the next line of a block scalar. -/
structure Joint where
  /-- The break at the end of the line before, if there was one. -/
  ended : List Char := []
  /-- The breaks of the empty lines after it. -/
  emptyLines : List Char := []
  /-- The line before started with a blank. -/
  indented : Bool := false

/-- Folding joins lines by a space, or drops the first break before empty lines. -/
def Joint.text (j : Joint) (folded startsBlank : Bool) : List Char :=
  if folded ∧ j.ended = ['\n'] ∧ !j.indented ∧ !startsBlank then
    if j.emptyLines.isEmpty then [' '] else j.emptyLines
  else j.ended ++ j.emptyLines

/-- The lines of a block scalar, the joint after the last of them, and the place. -/
structure BlockLines where
  text : List Char
  joint : Joint
  place : Cursor

/-- Reads the lines of a block scalar at a column. Lines without indentation
end at a mark for the end of the document. -/
def readLines (folded : Bool) (column : Nat) : Nat → Joint → Cursor → Option BlockLines
  | 0, _, _ => none
  | fuel + 1, joint, c =>
    if c.column ≠ column ∨ c.rest.isEmpty ∨ c.atMarkerOf '.' then some ⟨[], joint, c⟩
    else
      let line := c.rest.takeWhile fun char => !c.dialect.isBreak char
      let startsBlank := (c.rest.head?.map isBlank).getD false
      let text := joint.text folded startsBlank ++ line
      let after := c.skip line.length
      match after.rest with
      | [] => some ⟨text, {}, after⟩
      | char :: _ => do
        let found ← skipEmptyLines (some column) (after.rest.length + 1) after.step
        let lines ← readLines folded column fuel ⟨[char], found.breaks, startsBlank⟩ found.place
        some { lines with text := text ++ lines.text }

/-- The line breaks at the end of a block scalar with lines. -/
def tailBreaks (chomping : Chomping) (joint : Joint) (complete : List Char) : List Char :=
  match chomping with
  | .strip => []
  | .clip => joint.ended ++ complete
  | .keep => joint.ended ++ complete ++ joint.emptyLines

/-- The text of a block scalar without lines at the end of the text. -/
def emptyBlock (d : Dialect) (chomping : Chomping) (headerAlone : Bool) (lines : List Char) :
    List Char :=
  let completed := d.completesLastLine && !headerAlone
  match chomping with
  | .strip => []
  | .clip => if completed then ['\n'] else []
  | .keep => if completed && lines.isEmpty then ['\n'] else lines

structure BlockScalar where
  text : List Char
  style : Style
  place : Cursor

/-- Reads a block scalar after its indicator, inside a block at a given column. -/
def readBlock (folded : Bool) (outer : Int) (c : Cursor) : Option BlockScalar := do
  let d := c.dialect
  let (header, width) ← readHeader? folded c.rest
  let lineEnd ← (c.skip width).skipBlanks
  if !lineEnd.atLineEnd then none
  else
    let start := lineEnd.step
    let fuel := c.rest.length + 1
    if d.strict ∧ start.rest.head? = some '\t' then none
    else
      let given := header.indent.map fun indent => (max outer 0).toNat + indent
      let found ← skipEmptyLines given fuel start
      let column := match given with
        | some column => column
        | none => max found.greatest (max (outer + 1).toNat d.leastBlockColumn)
      let first := found.place
      if first.rest.isEmpty then
        some ⟨emptyBlock d header.chomping (first.line = c.line) found.breaks, .block, first⟩
      else if d.strict ∧ first.column < column ∧ outer < first.column then none
      else
        let lines ← readLines folded column fuel ⟨[], found.breaks, false⟩ first
        let complete :=
          if d.completesLastLine ∧ lines.place.rest.isEmpty ∧ max column 1 ≤ lines.place.column
          then ['\n'] else []
        let text := lines.text ++ tailBreaks header.chomping lines.joint complete
        let outdented := folded && column = 0 && !(Text.trimBlank text).isEmpty
        some ⟨text, if outdented then .outdented else .block, lines.place⟩

end QueryOptions.Yaml
