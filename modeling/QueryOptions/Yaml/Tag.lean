import QueryOptions.Url.Escape
import QueryOptions.Yaml.Cursor

/-!
Tags: the kinds of nodes, as addresses. A tag is written in full between angle
brackets, or as a handle with the rest of the address after it. One handle is
short for the kinds that YAML itself knows, and another one for kinds that are
known to the reader alone; directives can say what handles are short for.
-/

namespace QueryOptions.Yaml

def isNameChar (c : Char) : Bool := c.isAlphanum || c = '-' || c = '_'

/-- What the tags of the kinds start with that YAML itself knows. -/
def commonTags : String := "tag:yaml.org,2002:"

/-- What the tags of other kinds start with. -/
def ownTags : String := "!"

def isOwnTag (tag : String) : Bool := tag.toList.head? = some '!'

/-- The tag that names no kind. -/
def vagueTag : String := "!"

def nullTag : String := commonTags ++ "null"

def boolTag : String := commonTags ++ "bool"

def intTag : String := commonTags ++ "int"

def floatTag : String := commonTags ++ "float"

def textTag : String := commonTags ++ "str"

/-- A tag as it is written; without a handle it is written in full. -/
structure TagName where
  handle : String
  rest : String
  deriving DecidableEq, Repr

/-- Marks that an address may have beside letters, digits, dashes and underscores. -/
def addressMarks : List Char :=
  [';', '/', '?', ':', '@', '&', '=', '+', '$', '.', '%', '~', '*', '\'', '(', ')']

/-- Whether an address goes on with a character. In full it may have separators
of bracketed text too. -/
def Dialect.isInAddress (d : Dialect) (full : Bool) (c : Char) : Bool :=
  isNameChar c || addressMarks.contains c || c = '#' && d.hashInTags ||
    c = '!' && (full || !d.hashInTags) || full && (c = ',' || c = '[' || c = ']')

/-- Whether every percent sign starts an escape. -/
def escapesAreWhole : List Char → Bool
  | '%' :: high :: low :: rest =>
    (Decimal.readNat? 16 [high, low]).isSome && escapesAreWhole rest
  | '%' :: _ => false
  | _ :: rest => escapesAreWhole rest
  | [] => true

/-- The address that a text starts with, and how many characters it takes. -/
def Dialect.readAddress (d : Dialect) (full : Bool) (text : List Char) :
    Option (List Char × Nat) := do
  let written := text.takeWhile (d.isInAddress full)
  if !escapesAreWhole written then none
  let address ← Url.decodeUtf8? (Url.unescape written)
  some (address, written.length)

/-- The tag that a text starts with, given after its exclamation mark, and how many
characters it takes. -/
def Dialect.readTag? (d : Dialect) : List Char → Option (TagName × Nat)
  | '<' :: inner => do
    let (address, length) ← d.readAddress true inner
    if length = 0 ∨ (inner.drop length).head? ≠ some '>' then none
    else some (⟨"", String.ofList address⟩, length + 2)
  | text => do
    let name := text.takeWhile isNameChar
    match text.drop name.length with
    | '!' :: after =>
      let (address, length) ← d.readAddress false after
      if length = 0 then none
      else
        let handle := String.ofList ('!' :: (name ++ ['!']))
        some (⟨handle, String.ofList address⟩, name.length + 1 + length)
    | _ =>
      let (address, length) ← d.readAddress false text
      if length = 0 then some (⟨"", vagueTag⟩, 0)
      else some (⟨"!", String.ofList address⟩, length)

end QueryOptions.Yaml
