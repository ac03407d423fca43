/-!
Where readers of YAML differ. Query documents and settings files are read by
different rules, and each rule that is not common to both is a field here.
-/

namespace QueryOptions.Yaml

/-- How the references of a document are limited. -/
inductive ReferenceRule where
  /-- Many references need many anchors. -/
  | byAnchors
  /-- The references that are followed, also inside each other, are limited by the
  size of the document. -/
  | bySize
  deriving DecidableEq, Repr

structure Dialect where
  /-- The next line mark and the line and paragraph separators break lines too. -/
  wideBreaks : Bool
  /-- Tabs separate tokens like spaces, also where a line starts. -/
  tabsSeparate : Bool
  /-- Bracketed and quoted text stands deeper than the block around it, and a
  comment has a blank before it. -/
  strict : Bool
  /-- Between brackets a colon needs white space or an indicator after it,
  unless a quoted or bracketed key stands right before it. -/
  spacedColon : Bool
  /-- Between brackets a question mark needs white space after it to start a key,
  and the marks of block scalars are characters like others. -/
  spacedMarks : Bool
  /-- A pair without braces in a bracketed list ends at the next comma, even at
  one that belongs to braces inside it. -/
  commaEndsPair : Bool
  /-- A key between brackets may stand on another line than its colon. -/
  wideKeys : Bool
  /-- A value in a mapping may have no key. -/
  keylessValues : Bool
  /-- A block scalar may stand where a key is expected. -/
  blockKeys : Bool
  /-- The name of an anchor may have any characters but indicators of bracketed text. -/
  wideNames : Bool
  /-- A tag may have a hash in it, and an exclamation mark only in its handle or in full. -/
  hashInTags : Bool
  /-- A byte order mark may start a line. -/
  markedLines : Bool
  /-- The last line of a block scalar gets a line break if the text ends in it. -/
  completesLastLine : Bool
  /-- The least column of the lines of a block scalar. -/
  leastBlockColumn : Nat
  /-- Marks for the end of a document may stand before it, and text after it that
  cannot belong to a document is ignored. -/
  looseEnds : Bool
  /-- An anchored scalar without characters stands for nothing even in quotes. -/
  anchorsUnquote : Bool
  /-- Brackets can be nested this deep. -/
  deepestBrackets : Option Nat
  references : ReferenceRule
  deriving DecidableEq, Repr

namespace Dialect

/-- The rules for query documents. -/
def documents : Dialect where
  wideBreaks := false
  tabsSeparate := true
  strict := true
  spacedColon := true
  spacedMarks := true
  commaEndsPair := true
  wideKeys := true
  keylessValues := true
  blockKeys := true
  wideNames := true
  hashInTags := true
  markedLines := false
  completesLastLine := true
  leastBlockColumn := 0
  looseEnds := true
  anchorsUnquote := true
  deepestBrackets := some 255
  references := .byAnchors

/-- The rules for settings files. -/
def settings : Dialect where
  wideBreaks := true
  tabsSeparate := false
  strict := false
  spacedColon := false
  spacedMarks := false
  commaEndsPair := false
  wideKeys := false
  keylessValues := false
  blockKeys := false
  wideNames := false
  hashInTags := false
  markedLines := true
  completesLastLine := false
  leastBlockColumn := 1
  looseEnds := false
  anchorsUnquote := false
  deepestBrackets := none
  references := .bySize

end Dialect

end QueryOptions.Yaml
