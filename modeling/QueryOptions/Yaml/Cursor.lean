import QueryOptions.Yaml.Dialect

/-!
Places in a YAML text. Line breaks of one or two characters that mean the same
are a single line feed; columns count characters.
-/

namespace QueryOptions.Yaml

def isBlank (c : Char) : Bool := c = ' ' || c = '\t'

/-- The characters that structure bracketed text. -/
def isFlowIndicator (c : Char) : Bool :=
  c = ',' || c = '[' || c = ']' || c = '\x7b' || c = '\x7d'

def startsWithIndicator : List Char → Bool
  | [] => false
  | c :: _ => isFlowIndicator c

namespace Dialect

def isBreak (d : Dialect) (c : Char) : Bool :=
  c = '\n' || d.wideBreaks && (c = '\u2028' || c = '\u2029')

def isSpace (d : Dialect) (c : Char) : Bool := isBlank c || d.isBreak c

/-- Whether the line or the text ends. -/
def endsLine (d : Dialect) : List Char → Bool
  | [] => true
  | c :: _ => d.isBreak c

/-- Whether white space or the end of the text comes next. -/
def isSeparated (d : Dialect) : List Char → Bool
  | [] => true
  | c :: _ => d.isSpace c

/-- Whether a line starts with three marks that stand alone. -/
def startsWithMarker (d : Dialect) (mark : Char) : List Char → Bool
  | a :: b :: c :: rest => a = mark && b = mark && c = mark && d.isSeparated rest
  | _ => false

/-- Writes line breaks as line feeds, except for the separators. -/
def unifyBreaks (d : Dialect) : List Char → List Char
  | '\r' :: '\n' :: rest => '\n' :: d.unifyBreaks rest
  | '\r' :: rest => '\n' :: d.unifyBreaks rest
  | '\u0085' :: rest => (if d.wideBreaks then '\n' else '\u0085') :: d.unifyBreaks rest
  | c :: rest => c :: d.unifyBreaks rest
  | [] => []

end Dialect

/-- A place in a text that is read by the rules of a dialect. -/
structure Cursor where
  dialect : Dialect
  rest : List Char
  line : Nat := 0
  column : Nat := 0
  index : Nat := 0
  /-- Nothing but blanks stands before it on its line. -/
  leading : Bool := true
  deriving Repr

namespace Cursor

/-- The start of a text, after a byte order mark; a null character ends the text. -/
def ofText (d : Dialect) (text : String) : Cursor :=
  match d.unifyBreaks (text.toList.takeWhile (· ≠ '\x00')) with
  | '\uFEFF' :: rest => { dialect := d, rest := rest }
  | rest => { dialect := d, rest := rest }

def step (c : Cursor) : Cursor :=
  match c.rest with
  | [] => c
  | char :: rest =>
    if c.dialect.isBreak char then ⟨c.dialect, rest, c.line + 1, 0, c.index + 1, true⟩
    else ⟨c.dialect, rest, c.line, c.column + 1, c.index + 1, c.leading && isBlank char⟩

def skip : Nat → Cursor → Cursor
  | 0, c => c
  | n + 1, c => c.step.skip n

def skipWhile (p : Char → Bool) (c : Cursor) : Cursor := c.skip (c.rest.takeWhile p).length

/-- Goes to the end of the line. -/
def skipLine (c : Cursor) : Cursor := c.skipWhile fun char => !c.dialect.isBreak char

/-- Whether the line or the text ends. -/
def atLineEnd (c : Cursor) : Bool := c.dialect.endsLine c.rest

/-- Whether white space or the end of the text comes next. -/
def atSeparation (c : Cursor) : Bool := c.dialect.isSeparated c.rest

/-- Whether a line starts with a document marker of a kind. -/
def atMarkerOf (mark : Char) (c : Cursor) : Bool :=
  c.column = 0 && c.dialect.startsWithMarker mark c.rest

/-- Whether a line with a document marker starts. -/
def atMarker (c : Cursor) : Bool := c.atMarkerOf '-' || c.atMarkerOf '.'

/-- Skips blanks and a comment on the line; a strict reader refuses a comment
that touches what stands before it. -/
def skipBlanks (c : Cursor) : Option Cursor :=
  let after := c.skipWhile isBlank
  match after.rest with
  | '#' :: _ => if c.dialect.strict ∧ after.index = c.index then none else some after.skipLine
  | _ => some after

end Cursor

end QueryOptions.Yaml
