import QueryOptions.Json.Node
import QueryOptions.Text.Join
import QueryOptions.Text.Quoted

/-!
What can be wrong with a JSON text, and how it is put into words. A fault of
form has no description; a fault of content names what was found and what was
expected in its place.
-/

namespace QueryOptions.Json

/-- What stands in the place of something else. -/
inductive Found where
  | null
  | bool (value : Bool)
  | integer (n : Int)
  | float (x : Decimal.Binary64)
  | string (value : String)
  | sequence
  | map
  /-- The bare name of a variant that needs a value. -/
  | bareVariant
  deriving DecidableEq, Repr

inductive ReadError where
  | malformed
  | unknownField (name : String) (known : List String)
  | missingField (name : String)
  | duplicateField (name : String)
  | unknownVariant (name : String) (known : List String)
  | wrongType (found : Found) (expected : String)
  | negative (n : Int) (expected : String)
  | tooShort (size : Nat) (expected : String)
  | noVariant (typeName : String)
  deriving DecidableEq, Repr

def ticked (text : String) : String := "`" ++ text ++ "`"

def Found.text : Found → String
  | .null => "null"
  | .bool value => "boolean " ++ ticked (if value then "true" else "false")
  | .integer n => "integer " ++ ticked (Decimal.intText n)
  | .float x => "floating point " ++ ticked x.pointedText
  | .string value => "string " ++ Text.displayQuoted value
  | .sequence => "sequence"
  | .map => "map"
  | .bareVariant => "unit variant"

/-- The names to choose from. -/
def choice : List String → String
  | [first, second] => ticked first ++ " or " ++ ticked second
  | names => "one of " ++ Text.join ", " (names.map ticked)

/-- The words for a fault of content. -/
def ReadError.message? : ReadError → Option String
  | .malformed => none
  | .unknownField name known =>
    some ("unknown field " ++ ticked name ++ ", expected " ++ choice known)
  | .missingField name => some ("missing field " ++ ticked name)
  | .duplicateField name => some ("duplicate field " ++ ticked name)
  | .unknownVariant name known =>
    some ("unknown variant " ++ ticked name ++ ", expected " ++ choice known)
  | .wrongType found expected => some ("invalid type: " ++ found.text ++ ", expected " ++ expected)
  | .negative n expected =>
    some ("invalid value: " ++ (Found.integer n).text ++ ", expected " ++ expected)
  | .tooShort size expected =>
    some ("invalid length " ++ Decimal.natText size ++ ", expected " ++ expected)
  | .noVariant typeName => some ("data did not match any variant of untagged enum " ++ typeName)

end QueryOptions.Json
