import QueryOptions.Yaml.Gap

/-!
Plain scalars: words without quotes, over one line or several.
-/

namespace QueryOptions.Yaml

/-- Whether a word goes on. It ends at white space, at a colon before white
space, and between brackets also at an indicator or a colon before one. -/
def Dialect.continuesWord (d : Dialect) (flow : Bool) : List Char → Bool
  | [] => false
  | ':' :: rest => !(d.isSeparated rest || flow && startsWithIndicator rest)
  | c :: _ => !(d.isSpace c || flow && isFlowIndicator c)

def Dialect.takeWord (d : Dialect) (flow : Bool) : List Char → List Char
  | [] => []
  | c :: rest => if d.continuesWord flow (c :: rest) then c :: d.takeWord flow rest else []

/-- Whether a colon touches an indicator or a question mark. -/
def hasTouchingColon : List Char → Bool
  | ':' :: next :: rest => isFlowIndicator next || next = '?' || hasTouchingColon (next :: rest)
  | _ :: rest => hasTouchingColon rest
  | [] => false

/-- Whether a dash stands before an indicator. -/
def isLoneDash : List Char → Bool
  | '-' :: rest => startsWithIndicator rest
  | _ => false

/-- Whether characters at a place must not stand in a plain scalar between brackets. -/
def Cursor.refusesWord (c : Cursor) (word : List Char) : Bool :=
  if c.dialect.spacedColon then isLoneDash c.rest
  else hasTouchingColon (c.rest.take (word.length + 2))

/-- What becomes of a tab at the start of a further line. -/
def Dialect.tabsAtWords (d : Dialect) : TabRule := if d.strict then .onEmptyLines else .refused

/-- The words of a plain scalar, with the white space after the last of them. -/
structure Words where
  text : List Char
  gap : Gap
  place : Cursor

/-- Reads words from a place on, after a gap; outside brackets further lines
start at the given column or right of it. Each round takes a word, so the
length of the text is fuel enough. -/
def readWords (flow : Bool) (column : Int) : Nat → Gap → Cursor → Option Words
  | 0, _, _ => none
  | fuel + 1, gap, c =>
    let word := c.dialect.takeWord flow c.rest
    if c.atMarker ∨ c.rest.head? = some '#' then some ⟨[], gap, c⟩
    else if flow ∧ c.refusesWord word then none
    else if word.isEmpty then some ⟨[], gap, c⟩
    else do
      let after := c.skip word.length
      let text := gap.text ++ word
      let (next, place) ← after.gap c.dialect.tabsAtWords column {}
      if place.index = after.index ∨ (!flow ∧ place.column < column) then
        some ⟨text, next, place⟩
      else
        let words ← readWords flow column fuel next place
        some { words with text := text ++ words.text }

end QueryOptions.Yaml
