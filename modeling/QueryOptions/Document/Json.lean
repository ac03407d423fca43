import QueryOptions.Document.Format
import QueryOptions.Json.Decode

/-!
Query documents in JSON.
-/

namespace QueryOptions.Json

/-- The names of a list that holds only strings. -/
def strings? : List Node → Option (List String)
  | [] => some []
  | .string name :: rest => (strings? rest).map (name :: ·)
  | _ :: _ => none

def readSelect : Decoder Select :=
  readUntagged "Select" [
    fun node => match node with
      | .string text => some (.raw text)
      | .array items _ => (strings? items).map .fields
      | _ => none]

def readValue : Decoder DocumentValue :=
  readUntagged "DocValue" [
    fun node => match node with
      | .bool value => some (.bool value)
      | .number (.whole n) => some (.ofInt n)
      | .number (.float x) => some (.float x)
      | .string text => some (.ofText text)
      | _ => none]

def format : Format Node (Except ReadError) where
  string := readString
  bool := readBool
  unsigned := readUnsigned
  value := readValue
  select := readSelect
  option := readOption
  list := readList
  record := readRecord
  choice := readVariant
  tooDeep := fun _ => .error .malformed

/-- No text nests deeper than the levels counted here. -/
def readDocument : Decoder Document := format.document deepestNesting

def readDefaults : Decoder Defaults := format.defaults

end QueryOptions.Json
