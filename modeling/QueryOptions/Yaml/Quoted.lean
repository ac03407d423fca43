import QueryOptions.Decimal.Digits
import QueryOptions.Yaml.Gap

/-!
Quoted scalars. Line breaks in them are folded; a single quote is written
twice between single quotes, and between double quotes a backslash starts an
escape.
-/

namespace QueryOptions.Yaml

/-- The character of an escape by one letter. -/
def letterEscape? : Char → Option Char
  | '0' => some '\x00'
  | 'a' => some '\x07'
  | 'b' => some '\x08'
  | 't' => some '\t'
  | '\t' => some '\t'
  | 'n' => some '\n'
  | 'v' => some '\x0b'
  | 'f' => some '\x0c'
  | 'r' => some '\x0d'
  | 'e' => some '\x1b'
  | ' ' => some ' '
  | '"' => some '"'
  | '/' => some '/'
  | '\\' => some '\\'
  | 'N' => some '\u0085'
  | '_' => some '\u00a0'
  | 'L' => some '\u2028'
  | 'P' => some '\u2029'
  | _ => none

/-- The number of hexadecimal digits after a letter. -/
def escapeWidth? : Char → Option Nat
  | 'x' => some 2
  | 'u' => some 4
  | 'U' => some 8
  | _ => none

/-- The character of an escape after its backslash, and how many characters the escape has. -/
def readEscape? : List Char → Option (Char × Nat)
  | [] => none
  | c :: rest =>
    match letterEscape? c, escapeWidth? c with
    | some char, _ => some (char, 1)
    | none, none => none
    | none, some width => do
      let code ← Decimal.readNat? 16 (rest.take width)
      if (rest.take width).length = width ∧ code.isValidChar then
        some (Char.ofNat code, width + 1)
      else none

/-- A quoted scalar around a place. -/
structure Quotation where
  double : Bool
  /-- Whether it stands between brackets. -/
  flow : Bool
  /-- The column of the block around it. -/
  column : Int

namespace Quotation

def quote (q : Quotation) : Char := if q.double then '"' else '\''

/-- What becomes of a tab at the start of a further line. -/
def tabs (d : Dialect) : TabRule := if d.strict then .refused else .skipped

/-- Whether a further line stands too far left. After an escaped line break it
may stand anywhere, and so may the closing quote. -/
def isOutdented (q : Quotation) (gap : Gap) (c : Cursor) : Bool :=
  c.dialect.strict && !q.flow && !gap.first.isEmpty && c.column ≤ q.column &&
    c.rest.head? != some q.quote

/-- Reads white space on from a gap. -/
def fold (q : Quotation) (gap : Gap) (c : Cursor) : Option (List Char × Cursor) := do
  let (gap, next) ← c.gap (tabs c.dialect) q.column gap
  if q.isOutdented gap next then none else some (gap.text, next)

/-- Reads a backslash and what belongs to it. -/
def readBackslash (q : Quotation) (c : Cursor) : Option (List Char × Cursor) :=
  match c.rest.drop 1 with
  | [] => none
  | next :: rest =>
    if c.dialect.isBreak next then q.fold { ended := true } (c.skip 2)
    else do
      let (char, width) ← readEscape? (next :: rest)
      some ([char], c.skip (width + 1))

/-- Reads a piece of text between the quotes. -/
def readPiece (q : Quotation) (c : Cursor) : Option (List Char × Cursor) :=
  match c.rest with
  | [] => none
  | char :: rest =>
    if c.dialect.isSpace char then q.fold {} c
    else if char = '\\' ∧ q.double then q.readBackslash c
    else if char = '\'' ∧ !q.double ∧ rest.head? = some '\'' then some (['\''], c.skip 2)
    else some ([char], c.step)

/-- Whether the closing quote comes next. -/
def isClosedAt (q : Quotation) (c : Cursor) : Bool :=
  c.rest.head? = some q.quote && (q.double || (c.rest.drop 1).head? != some '\'')

/-- Reads up to the closing quote and over it. Each round takes a character or
white space, so the length of the text is fuel enough. -/
def read (q : Quotation) : Nat → Cursor → Option (List Char × Cursor)
  | 0, _ => none
  | fuel + 1, c =>
    if c.atMarker then none
    else if q.isClosedAt c then some ([], c.step)
    else do
      let (piece, next) ← q.readPiece c
      let (more, last) ← q.read fuel next
      some (piece ++ more, last)

end Quotation

end QueryOptions.Yaml
