import QueryOptions.Decimal.Binary64
import QueryOptions.Yaml.Tag

/-!
The core reading of YAML scalars: few names for null and the truth values, and
numbers in the notations of the core schema. Without a tag a decimal number
with a zero in front is text.
-/

namespace QueryOptions.Yaml.Core

open Decimal

/-- What a scalar stands for. -/
inductive Scalar where
  | null
  | bool (value : Bool)
  | unsigned (n : Nat)
  | signed (n : Int)
  | float (x : Binary64)
  | text
  deriving DecidableEq, Repr

def nullNames : List String := ["", "~", "null", "Null", "NULL"]

def trueNames : List String := ["true", "True", "TRUE"]

def falseNames : List String := ["false", "False", "FALSE"]

def infinityNames : List String := [".inf", ".Inf", ".INF"]

def nanNames : List String := [".nan", ".NaN", ".NAN"]

/-- Whether digits start with a zero although there are more of them. -/
def hasIdleZero : List Char → Bool
  | '0' :: rest => rest ≠ [] && rest.all Char.isDigit
  | _ => false

/-- Reads digits after the mark of their base, or decimal digits. -/
def magnitude? : List Char → Option Nat
  | '0' :: 'x' :: digits => readNat? 16 digits
  | '0' :: 'o' :: digits => readNat? 8 digits
  | '0' :: 'b' :: digits => readNat? 2 digits
  | digits => if hasIdleZero digits then none else readNat? 10 digits

/-- Numbers have at most 128 bits. -/
def integer? : List Char → Option Scalar
  | '-' :: digits =>
    (magnitude? digits).bind fun n => if n ≤ twoTo 127 then some (.signed (-(n : Int))) else none
  | text =>
    (magnitude? (Binary64.takeSign text).2).bind fun n =>
      if n < twoTo 128 then some (.unsigned n) else none

/-- The names of infinity aside, only finite numbers are floating point numbers. -/
def float? (text : List Char) : Option Binary64 :=
  let (negative, magnitude) := Binary64.takeSign text
  if String.ofList magnitude ∈ infinityNames then some (.infinity negative)
  else if String.ofList text ∈ nanNames then some .nan
  else match Binary64.read? text with
    | some x => if x.isFinite then some x else none
    | none => none

def bool? (text : String) : Option Bool :=
  if text ∈ trueNames then some true
  else if text ∈ falseNames then some false
  else none

/-- The first kind of value that a plain scalar without a tag can be read as. -/
def Scalar.ofPlain (text : String) : Scalar :=
  let float := if hasIdleZero (Binary64.takeSign text.toList).2 then none else float? text.toList
  if text ∈ nullNames then .null
  else match bool? text, integer? text.toList, float with
    | some value, _, _ => .bool value
    | none, some n, _ => n
    | none, none, some x => .float x
    | none, none, none => .text

/-- A scalar with a tag, whatever its style. It has to be of the kind that its tag
names; with any other tag it is text. -/
def Scalar.ofTagged? (tag text : String) : Option Scalar :=
  if tag = nullTag then if text ≠ "" ∧ text ∈ nullNames then some .null else none
  else if tag = boolTag then (bool? text).map .bool
  else if tag = intTag then integer? text.toList
  else if tag = floatTag then (float? text.toList).map .float
  else some .text

end QueryOptions.Yaml.Core
