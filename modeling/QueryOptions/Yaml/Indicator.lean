import QueryOptions.Yaml.Block
import QueryOptions.Yaml.Layout
import QueryOptions.Yaml.Plain
import QueryOptions.Yaml.Quoted

/-!
What each indicator of YAML does to the layout, and the tokens of a whole text.
-/

namespace QueryOptions.Yaml

namespace Layout

/-- Whether a tab stands where only spaces may indent. -/
def atIndentingTab (s : Layout) : Bool :=
  s.place.rest.head? = some '\t' && !s.levels.isEmpty && s.place.leading &&
    s.place.column < s.indent

/-- Whether a tab separates tokens here. -/
def skipsTabs (s : Layout) : Bool := s.dialect.tabsSeparate || s.inBrackets || !s.keyAllowed

/-- A line break outside brackets allows a key again. -/
def passLine (s : Layout) : Layout :=
  (s.moveTo s.place.step).atKey (s.keyAllowed || !s.inBrackets)

/-- Skips white space and comments. Each round skips a character or a comment,
so the length of the text is fuel enough. -/
def skipSpace : Nat → Layout → Option Layout
  | 0, _ => none
  | fuel + 1, s =>
    match s.place.rest with
    | [] => some s
    | char :: _ =>
      if s.dialect.isBreak char then skipSpace fuel s.passLine
      else if char = '\t' ∧ !s.skipsTabs then some s
      else if char = '\t' ∧ s.dialect.strict ∧ s.atIndentingTab then do
        let place ← s.place.skipBlanks
        if place.atLineEnd then skipSpace fuel (s.moveTo place) else none
      else if isBlank char ∨
          (char = '\ufeff' ∧ s.dialect.markedLines ∧ s.place.column = 0) then
        skipSpace fuel (s.moveTo s.place.step)
      else if char = '#' then skipSpace fuel (s.moveTo s.place.skipLine)
      else some s

/-- Whether a comment has cut a plain scalar off from words on the next line. -/
def isCutOff (s : Layout) : Bool :=
  match s.commented with
  | none => false
  | some line =>
    !s.inBrackets && s.place.line = line + 1 && s.indent < s.place.column &&
      !s.place.atMarker && s.dialect.continuesWord false s.place.rest

/-- Goes to the next token. -/
def skipToToken (s : Layout) : Option Layout := do
  let next ← skipSpace (s.place.rest.length + 1) s
  if next.isCutOff then none else some { next with commented := none }

/-- A document marker ends all blocks; some readers want nothing but a comment
after the one that ends the document. -/
def readMarker (token : Token) (s : Layout) : Option Layout := do
  let s ← (s.closeTo (-1)).dropKey
  let next := ((s.push token).atKey false).moveTo (s.place.skip 3)
  if token = .documentEnd ∧ s.dialect.strict then do
    let next ← next.skipAfter
    if next.place.atLineEnd then some next else none
  else some next

def readDirective (s : Layout) : Option Layout := do
  let s ← (s.closeTo (-1)).dropKey
  let line := (s.place.rest.drop 1).takeWhile fun c => !s.dialect.isBreak c
  let kind ← readDirective? s.dialect line
  some (((s.push (.directive kind)).atKey false).moveTo s.place.skipLine)

/-- Whether one bracket more would be nested too deep. -/
def isDeepest (s : Layout) : Bool := s.dialect.deepestBrackets.any (· ≤ s.outer.length)

/-- An opening bracket may itself start a key. -/
def readOpening (mapping : Bool) (s : Layout) : Option Layout :=
  if s.isDeepest then none
  else
    let s := s.offerKey.enterEntry
    let inside := { s with
      outer := s.candidate :: s.outer
      candidate := none
      keyAllowed := true
      pairs := if mapping then s.pairs else false :: s.pairs
      braced := s.braced || mapping
      place := s.place.step }
    (inside.push (if mapping then .openMapping else .openSequence)).skipAfter

def readClosing (mapping : Bool) (s : Layout) : Option Layout := do
  let s ← s.dropKey
  match s.outer with
  | [] => none
  | candidate :: outer =>
    let s := { s with outer := outer, candidate := candidate, keyAllowed := false }
    let s := if mapping then s else
      let ended := s.endPair
      { ended with pairs := ended.pairs.drop 1 }
    let token : Token := if mapping then .closeMapping else .closeSequence
    let s ← ((s.moveTo s.place.step).push token).skipAfter
    some (if s.inBrackets then { s with adjacent := some s.place.index } else s)

def readComma (s : Layout) : Option Layout := do
  let s ← s.dropKey
  let s := (s.atKey true).endPair
  ((s.moveTo s.place.step).push .comma).skipAfter

/-- Whether a tab and a dash that starts another entry follow a dash. -/
def isDashAfterTab (place : Cursor) : Bool :=
  let after := place.skipWhile isBlank
  (place.rest.takeWhile isBlank).contains '\t' && after.rest.head? = some '-' &&
    after.dialect.isSeparated (after.rest.drop 1)

/-- A dash starts an entry of a block sequence. -/
def readDash (s : Layout) : Option Layout :=
  if s.inBrackets ∨ !s.keyAllowed then none
  else do
    let opened := s.openBlock s.place.column s.tokens.size .blockSequence
    let after := s.place.step
    if s.dialect.strict ∧ isDashAfterTab after then none
    else
      let place ← if s.dialect.strict then after.skipBlanks else some after
      let s := opened.moveTo place
      let enters := !place.rest.isEmpty && place.atLineEnd || startsWithIndicator place.rest
      let s ← (if enters then s.enterEntry else s).dropKey
      some ((s.atKey true).push .dash)

/-- Skips the white space after a question mark, which has no tab in it. -/
def skipAfterMark (s : Layout) : Option Layout :=
  if s.place.rest.isEmpty then none
  else do
    let next ← skipUpToTab (s.place.rest.length + 1) s
    if next.place.rest.head? = some '\t' then none else some next
where
  /-- Skips spaces, line breaks and comments. -/
  skipUpToTab : Nat → Layout → Option Layout
    | 0, _ => none
    | fuel + 1, s =>
      match s.place.rest with
      | ' ' :: _ => skipUpToTab fuel (s.moveTo s.place.step)
      | '\n' :: _ => skipUpToTab fuel s.passLine
      | '#' :: _ => skipUpToTab fuel (s.moveTo s.place.skipLine)
      | _ => some s

/-- A question mark starts a key of any kind. -/
def readKeyMark (s : Layout) : Option Layout :=
  if !s.inBrackets ∧ !s.keyAllowed then none
  else do
    let opened := if s.inBrackets then { s with braced := true }
      else s.openBlock s.place.column s.tokens.size .blockMapping
    let s ← opened.dropKey
    let next := (s.atKey (!s.inBrackets)).moveTo s.place.step
    let next ← if s.dialect.strict then next.skipAfterMark else some next
    some (next.push .key)

/-- Whether nothing but tabs stands between a colon and a name. -/
def isNameAfterTabs (place : Cursor) : Bool :=
  let after := place.skipWhile (· = '\t')
  after.index ≠ place.index && (after.rest.head?.map isNameChar).getD false

/-- A colon turns the candidate into a key, or gives the key before it its value. -/
def readColon (s : Layout) : Option Layout :=
  let implicit := s.dialect.commaEndsPair && !s.pairs.isEmpty && !s.braced
  let s := if implicit then { s with pairs := true :: s.pairs.drop 1 } else s
  let after := s.place.step
  if s.dialect.strict ∧ isNameAfterTabs after then none
  else match s.candidate with
    | some c =>
      if implicit ∧ c.line < s.place.line then none
      else
        let keyed := { s with
          tokens := s.tokens.insertIdxIfInBounds c.token .key
          candidate := none
          keyAllowed := false }
        let keyed := if implicit then
            { keyed with tokens := keyed.tokens.insertIdxIfInBounds c.token .openMapping }
          else keyed.openBlock c.column c.token .blockMapping
        some ((keyed.enterEntry.moveTo after).push .value)
    | none =>
      if !s.inBrackets ∧ !s.keyAllowed then none
      else
        let s := if implicit then s.push .openMapping
          else s.openBlock s.place.column s.tokens.size .blockMapping
        some (((s.enterEntry.atKey (!s.inBrackets)).moveTo after).push .value)

/-- Whether a colon marks a value. -/
def colonMarksValue (s : Layout) (next : List Char) : Bool :=
  s.dialect.isSeparated next || s.inBrackets &&
    (!s.dialect.spacedColon || s.adjacent = some s.place.index || startsWithIndicator next)

/-- Whether a colon stands before an opening bracket that it must not touch. -/
def colonTouchesBracket (s : Layout) (next : List Char) : Bool :=
  s.inBrackets && s.dialect.spacedColon && s.adjacent != some s.place.index &&
    (next.head? = some '[' || next.head? = some '\x7b')

/-- Whether a question mark starts a key. -/
def startsKey (s : Layout) (next : List Char) : Bool :=
  s.dialect.isSeparated next || s.inBrackets && !s.dialect.spacedMarks

/-- Whether a character belongs to the name of an anchor. -/
def isInName (d : Dialect) (c : Char) : Bool :=
  if d.wideNames then !(d.isSpace c || isFlowIndicator c || c = '\ufeff') else isNameChar c

/-- The characters that may follow the name of an anchor where names are narrow. -/
def endsName (c : Char) : Bool :=
  c = '?' || c = ':' || c = ',' || c = ']' || c = '\x7d' || c = '%' || c = '@' || c = '\x60'

/-- An anchor or a reference to one. -/
def readName (token : String → Token) (s : Layout) : Option Layout :=
  let name := s.place.step.rest.takeWhile (isInName s.dialect)
  let place := s.place.step.skip name.length
  let ends := s.dialect.wideNames || place.atSeparation || place.rest.head?.any endsName
  if name.isEmpty ∨ !ends then none
  else some (((s.offerKey.atKey false).moveTo place).push (token (String.ofList name)))

/-- Whether a tag may end before a text. -/
def endsTag (s : Layout) (rest : List Char) : Bool :=
  s.dialect.isSeparated rest || s.inBrackets &&
    (if s.dialect.hashInTags then startsWithIndicator rest else rest.head? = some ',')

def readTag (s : Layout) : Option Layout := do
  let (name, length) ← s.dialect.readTag? s.place.step.rest
  let place := s.place.step.skip length
  if s.endsTag place.rest then some (((s.offerKey.atKey false).moveTo place).push (.tag name))
  else none

/-- Whether text touches a quoted scalar that started on the given line. -/
def isTouching (line : Nat) (s : Layout) : Bool :=
  match s.place.rest with
  | ':' :: _ => !s.inBrackets && line ≠ s.place.line
  | ',' :: _ | ']' :: _ | '\x7d' :: _ => !s.inBrackets
  | _ => !s.place.atLineEnd

def readQuotedScalar (double : Bool) (s : Layout) : Option Layout := do
  let quotation := { double := double, flow := s.inBrackets, column := s.indent : Quotation }
  let (text, place) ← quotation.read (s.place.rest.length + 1) s.place.step
  let token := Token.scalar .quoted (String.ofList text)
  let after ← ((s.offerKey.atKey false).moveTo place).skipAfter
  if s.dialect.strict ∧ after.isTouching s.place.line then none
  else
    let next ← after.skipToToken
    some { next.push token with adjacent := some next.place.index }

/-- Whether a comment follows words on their line. -/
def isCommented (words : Words) : Bool :=
  !words.gap.ended && !words.gap.blanks.isEmpty && words.place.rest.head? = some '#'

def readPlainScalar (s : Layout) : Option Layout :=
  let offered := s.offerKey.atKey false
  let s := offered.dropEntries
  if s.dialect.strict ∧ s.inBrackets ∧ s.place.column < s.indent + 1 then none
  else do
    let words ← readWords s.inBrackets (s.indent + 1) (s.place.rest.length + 1) {} s.place
    let place := words.place
    if words.text.isEmpty then none
    else
      let s := if s.dialect.strict ∧ !s.inBrackets ∧ isCommented words then
          { s with commented := some place.line }
        else s
      let next := (s.moveTo place).atKey words.gap.ended
      some (next.push (.scalar .plain (String.ofList words.text)))

/-- A block scalar ends at the start of a line, where a key may start. -/
def readBlockScalar (folded : Bool) (s : Layout) : Option Layout := do
  let s ← if s.dialect.blockKeys then some s.offerKey else s.dropKey
  let s := (s.atKey true).dropEntries
  let scalar ← readBlock folded s.indent s.place.step
  some ((s.moveTo scalar.place).push (.scalar scalar.style (String.ofList scalar.text)))

/-- The characters at which no token starts. -/
def isReserved (s : Layout) (c : Char) : Bool :=
  c = '%' || c = '@' || c = '\x60' || c = '\t' ||
    (c = '|' || c = '>') && !s.dialect.spacedMarks

/-- Whether bracketed text stands too far left. -/
def isOutdented (s : Layout) (c : Char) : Bool :=
  s.inBrackets && s.place.column < s.indent && !(c = ']' || c = '\x7d' || c = ',')

/-- Reads the token at the place. -/
def readToken (s : Layout) : Option Layout :=
  match s.place.rest with
  | [] => none
  | c :: next =>
    if s.place.column = 0 ∧ c = '%' then s.readDirective
    else if s.place.atMarkerOf '-' then s.readMarker .documentStart
    else if s.place.atMarkerOf '.' then s.readMarker .documentEnd
    else if s.dialect.strict ∧ s.isOutdented c then none
    else if c = '[' then s.readOpening false
    else if c = '\x7b' then s.readOpening true
    else if c = ']' then s.readClosing false
    else if c = '\x7d' then s.readClosing true
    else if c = ',' then s.readComma
    else if c = '-' ∧ s.dialect.isSeparated next then s.readDash
    else if c = '?' ∧ s.startsKey next then s.readKeyMark
    else if c = ':' ∧ s.colonTouchesBracket next then none
    else if c = ':' ∧ s.colonMarksValue next then s.readColon
    else if c = '*' then s.readName .reference
    else if c = '&' then s.readName .anchor
    else if c = '!' then s.readTag
    else if c = '|' ∧ !s.inBrackets then s.readBlockScalar false
    else if c = '>' ∧ !s.inBrackets then s.readBlockScalar true
    else if c = '\'' then s.readQuotedScalar false
    else if c = '"' then s.readQuotedScalar true
    else if s.isReserved c then none
    else s.readPlainScalar

/-- Ends all blocks at the end of the text. -/
def finish (s : Layout) : Option Layout := (s.closeTo (-1)).dropKey

/-- Goes to the next token and ends the blocks before it. -/
def advance (s : Layout) : Option Layout := do
  let s ← (← s.skipToToken).expireKey
  some (s.closeTo s.place.column)

/-- Reads tokens up to the end of the text or to where there are none. Each
round reads at least one character. -/
def readTokens : Nat → Layout → TokenList
  | 0, s => ⟨s.settled, false⟩
  | fuel + 1, s =>
    match s.advance with
    | none => ⟨s.settled, false⟩
    | some next =>
      if next.place.rest.isEmpty then
        match next.finish with
        | some last => ⟨last.tokens.toList, true⟩
        | none => ⟨s.settled, false⟩
      else
        match next.readToken with
        | some after => readTokens fuel after
        | none => ⟨s.settled, false⟩

end Layout

/-- The tokens of a text. -/
def TokenList.ofText (d : Dialect) (text : String) : TokenList :=
  let place := Cursor.ofText d text
  Layout.readTokens (place.rest.length + 1) { place := place }

end QueryOptions.Yaml
