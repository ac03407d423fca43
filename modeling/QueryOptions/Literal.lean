import QueryOptions.Calendar.Instant
import QueryOptions.Decimal.Binary64

/-!
Literal values and their text inside a query option.

Text is put between single quotes just as it is, so a quote inside has to be
doubled by whoever supplies the value. Decimals keep their places, binary
floating point numbers have the fewest digits, and instants are in UTC.
-/

namespace QueryOptions

inductive Literal where
  | text (value : String)
  | number (value : Decimal.Scaled)
  | float (value : Decimal.Binary64)
  | bool (value : Bool)
  | instant (value : Calendar.Instant)
  /-- Any other value, through its own text. -/
  | other (value : String)
  deriving DecidableEq, Repr, Inhabited

namespace Literal

def ofInt (n : Int) : Literal := .number (.ofInt n)

/-- An instant is the same literal in whichever zone it was seen. -/
def ofZonedTime (time : Calendar.ZonedTime) : Literal := .instant time.instant

/-- The short name of the kind of a literal. -/
def kind : Literal → String
  | .text _ => "text"
  | .number _ | .float _ => "number"
  | .bool _ => "bool"
  | .instant _ => "datetime"
  | .other _ => "other"

def quoted (value : String) : String := "'" ++ value ++ "'"

def boolText (value : Bool) : String := if value then "true" else "false"

def render : Literal → String
  | .text value | .other value => quoted value
  | .number value => value.text
  | .float value => value.text
  | .bool value => boolText value
  | .instant value => value.text

end Literal

end QueryOptions
