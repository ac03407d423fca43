import QueryOptions.Decimal.Binary64
import QueryOptions.Text.Blank

/-!
The wide reading of YAML scalars. Truth values and null have several names in
any case; integers may have a sign, a base and underscores between their
digits. Where a kind of value is expected quotes make no difference; where any
value may stand, only a plain scalar is more than text.
-/

namespace QueryOptions.Yaml.Wide

open Decimal

def isNull (text : List Char) : Bool :=
  text = [] || text = ['~'] || Text.lowered text = ['n', 'u', 'l', 'l']

def trueNames : List String := ["true", "yes", "y", "on"]

def falseNames : List String := ["false", "no", "n", "off"]

def bool? (text : List Char) : Option Bool :=
  let name := String.ofList (Text.lowered (Text.trimBlank text))
  if name ∈ trueNames then some true
  else if name ∈ falseNames then some false
  else none

/-- The base that a digit string is marked with, and the digits. -/
def splitBase : List Char → Nat × List Char
  | '0' :: mark :: digits =>
    match mark.toLower with
    | 'x' => (16, digits)
    | 'o' => (8, digits)
    | 'b' => (2, digits)
    | _ => (10, '0' :: mark :: digits)
  | digits => (10, digits)

def magnitude? (text : List Char) : Option Nat :=
  let (base, digits) := splitBase text
  readNat? base (digits.filter (· ≠ '_'))

def upTo (greatest : Nat) (n : Nat) : Option Nat := if n ≤ greatest then some n else none

/-- Reads an unsigned number. -/
def unsigned? (text : List Char) : Option Nat :=
  let magnitude := match Text.trimBlank text with
    | '+' :: rest => magnitude? rest
    | rest => magnitude? rest
  magnitude.bind (upTo greatestUnsigned)

/-- Reads a number in the 64-bit range, signed after a minus. -/
def integer? (text : List Char) : Option Int :=
  match Text.trimBlank text with
  | '-' :: rest => ((magnitude? rest).bind (upTo (twoTo 63))).map fun n => -(n : Int)
  | '+' :: rest => ((magnitude? rest).bind (upTo greatestUnsigned)).map Int.ofNat
  | rest => ((magnitude? rest).bind (upTo greatestUnsigned)).map Int.ofNat

/-- Reads a floating point number; infinity and not-a-number may start with a point. -/
def float? (text : List Char) : Option Binary64 :=
  let trimmed := Text.trimBlank text
  let (negative, magnitude) := Binary64.takeSign trimmed
  let word := String.ofList (Text.lowered magnitude)
  if word = ".inf" then some (.infinity negative)
  else if word = ".nan" then some .nan
  else Binary64.read? trimmed

/-- What a plain scalar stands for. -/
inductive Scalar where
  | null
  | bool (value : Bool)
  | integer (n : Int)
  | float (x : Binary64)
  | text
  deriving DecidableEq, Repr

/-- The first kind of value that a plain scalar can be read as. -/
def Scalar.ofPlain (text : List Char) : Scalar :=
  if isNull text then .null
  else match bool? text, integer? text, float? text with
    | some value, _, _ => .bool value
    | none, some n, _ => .integer n
    | none, none, some x => .float x
    | none, none, none => .text

end QueryOptions.Yaml.Wide
