import QueryOptions.Decimal.Digits
import QueryOptions.Yaml.Tag

/-!
Directives: lines before a document that name the version of YAML or shorten
tags. Other directives are reserved.
-/

namespace QueryOptions.Yaml

inductive Directive where
  | version
  | tag (handle meaning : String)
  | reserved
  deriving DecidableEq, Repr

/-- Whether nothing but a comment follows on the line. -/
def isLineRest (d : Dialect) (text : List Char) : Bool :=
  match text.dropWhile isBlank with
  | [] => true
  | c :: _ => c = '#' && (!d.strict || text.head?.any isBlank)

/-- Whether a text starts with a version, and nothing but a comment follows it. -/
def isVersion (d : Dialect) (text : List Char) : Bool :=
  let (major, rest) := text.span Char.isDigit
  let (minor, rest) := (rest.drop 1).span Char.isDigit
  let known := Decimal.readNat? 10 major = some 1 &&
    (Decimal.readNat? 10 minor = some 1 || Decimal.readNat? 10 minor = some 2)
  (text.drop major.length).head? = some '.' && !major.isEmpty && !minor.isEmpty &&
    major.length ≤ 9 && minor.length ≤ 9 && (d.strict || known) && isLineRest d rest

/-- A handle and what it is short for, at the start of a text with nothing but
a comment after them. -/
def readShorthand? (d : Dialect) (text : List Char) : Option Directive := do
  let (handle, rest) := text.span fun c => !isBlank c
  let inner := (handle.drop 1).take (handle.length - 2)
  let blanks := rest.takeWhile isBlank
  let (meaning, length) ← d.readAddress true (rest.drop blanks.length)
  let after := rest.drop (blanks.length + length)
  if handle.head? = some '!' ∧ handle.getLast? = some '!' ∧ inner.all isNameChar ∧
      length ≠ 0 ∧ d.isSeparated after ∧ isLineRest d after then
    some (.tag (String.ofList handle) (String.ofList meaning))
  else none

/-- Reads a directive from a line after its percent sign; only a strict reader
leaves room for reserved ones. -/
def readDirective? (d : Dialect) (line : List Char) : Option Directive :=
  let (name, rest) := line.span isNameChar
  let text := rest.dropWhile isBlank
  if name.isEmpty ∨ !d.isSeparated rest then none
  else if name = ['Y', 'A', 'M', 'L'] then if isVersion d text then some .version else none
  else if name = ['T', 'A', 'G'] then readShorthand? d text
  else if d.strict then some .reserved
  else none

end QueryOptions.Yaml
