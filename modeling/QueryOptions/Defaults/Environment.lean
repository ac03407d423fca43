import QueryOptions.Defaults.Layer
import QueryOptions.Text.Blank

/-!
Settings in environment variables. The name of a variable that stands for a
setting starts with a fixed word in any case; a point in it leads into a map.
The value is a truth value, a number, a quoted text, a list or a map if it can
be read as one from end to end, and otherwise text.
-/

namespace QueryOptions.Environment

open Decimal

/-- What the names of variables with settings start with. -/
def nameStart : List Char := ['o', 'd', 'a', 't', 'a', '_', 'q', 'u', 'e', 'r', 'y', '_']

/-- The part of a variable's name that names the setting, and whether more follows a point. -/
def settingName? (variableName : String) : Option (String × Bool) :=
  let name := Text.lowered (Text.trimBlank variableName.toList)
  let parts := Text.cut '.' (Text.trimBlank (name.drop nameStart.length))
  if name.take nameStart.length ≠ nameStart ∨ parts.any List.isEmpty then none
  else match parts with
    | [] => none
    | first :: more => some (String.ofList first, !more.isEmpty)

/-- The ASCII characters that separate. -/
def isSpace (c : Char) : Bool := c = ' ' || c = '\t' || c = '\n' || c = '\x0c' || c = '\x0d'

def skipSpace (text : List Char) : List Char := text.dropWhile isSpace

/-- Whether a character goes on with an unquoted value. -/
def isBare (c : Char) : Bool :=
  !(c = ',' || c = '\x7b' || c = '\x7d' || c = '[' || c = ']')

def isNameChar (c : Char) : Bool := c.isAlphanum || c = '_' || c = '-'

/-- The number of hexadecimal digits of an escape. -/
def escapeWidth? : Char → Option Nat
  | 'u' => some 4
  | 'U' => some 8
  | _ => none

def letterEscape? : Char → Option Char
  | 'b' => some '\x08'
  | 'f' => some '\x0c'
  | 'n' => some '\n'
  | 'r' => some '\x0d'
  | 't' => some '\t'
  | '"' => some '"'
  | '\\' => some '\\'
  | _ => none

/-- The characters up to a closing quote and what follows it. Each round takes
a character, so the length of the text is fuel enough. -/
def readQuoted : Nat → List Char → Option (List Char × List Char)
  | 0, _ => none
  | _ + 1, [] => none
  | _ + 1, '"' :: rest => some ([], rest)
  | fuel + 1, '\\' :: mark :: rest => do
    let (char, rest) ← match letterEscape? mark, escapeWidth? mark with
      | some char, _ => some (char, rest)
      | none, some width => do
        let code ← readNat? 16 (rest.take width)
        if (rest.take width).length = width ∧ code.isValidChar then
          some (Char.ofNat code, rest.drop width)
        else none
      | none, none => none
    let (text, rest) ← readQuoted fuel rest
    some (char :: text, rest)
  | fuel + 1, char :: rest => do
    if char = '\\' then none
    let (text, rest) ← readQuoted fuel rest
    some (char :: text, rest)

/-- An unquoted value; only a number with a point may be a floating point number. -/
def readBare (text : List Char) : SettingValue :=
  let trimmed := Text.trimBlank text
  let float := if trimmed.contains '.' then Binary64.read? trimmed else none
  match float, readInt? trimmed with
  | some x, _ => .float x
  | none, some n =>
    if trimmed.head? ≠ some '-' ∧ n.toNat ≤ greatestUnsigned then .unsigned n.toNat
    else if trimmed.head? = some '-' ∧ leastSigned ≤ n then .signed n
    else .text (String.ofList trimmed)
  | none, none => .text (String.ofList trimmed)

mutual

/-- Reads a value and returns what follows it. -/
def readValue (fuel : Nat) (text : List Char) : Option (SettingValue × List Char) :=
  match fuel with
  | 0 => none
  | fuel + 1 =>
    let found : Option (SettingValue × List Char) := match skipSpace text with
      | 't' :: 'r' :: 'u' :: 'e' :: rest => some (.bool true, rest)
      | 'f' :: 'a' :: 'l' :: 's' :: 'e' :: rest => some (.bool false, rest)
      | '\x7b' :: rest => (readEntries fuel rest).map (.map, ·)
      | '[' :: rest => (readItems fuel rest).map (.sequence, ·)
      | '"' :: rest =>
        (readQuoted (rest.length + 1) rest).map fun (value, rest) =>
          (.text (String.ofList value), rest)
      | '\'' :: char :: '\'' :: rest => some (.text (String.ofList [char]), rest)
      | '\'' :: _ => none
      | rest => some (readBare (rest.takeWhile isBare), rest.dropWhile isBare)
    found.map fun (value, rest) => (value, skipSpace rest)

/-- Reads the items of a list up to its end; a comma may stand last. -/
def readItems (fuel : Nat) (text : List Char) : Option (List Char) :=
  match fuel with
  | 0 => none
  | fuel + 1 =>
    match text with
    | ']' :: rest => some rest
    | text =>
      match readValue fuel text with
      | some (_, ',' :: rest) => readItems fuel rest
      | some (_, ']' :: rest) => some rest
      | _ => none

/-- Reads the entries of a map up to its end; a comma may stand last. -/
def readEntries (fuel : Nat) (text : List Char) : Option (List Char) :=
  match fuel with
  | 0 => none
  | fuel + 1 =>
    match text with
    | '\x7d' :: rest => some rest
    | text => do
      let afterKey ← match skipSpace text with
        | '"' :: rest => (readQuoted (rest.length + 1) rest).map Prod.snd
        | rest =>
          let (name, rest) := rest.span isNameChar
          if name.isEmpty then none else some rest
      match skipSpace afterKey with
      | '=' :: rest =>
        match readValue fuel rest with
        | some (_, ',' :: rest) => readEntries fuel rest
        | some (_, '\x7d' :: rest) => some rest
        | _ => none
      | _ => none

end

/-- The value that a variable's text stands for. -/
def valueOf (text : String) : SettingValue :=
  match readValue (2 * text.length + 2) text.toList with
  | some (value, []) => value
  | _ => .text text

end QueryOptions.Environment

namespace QueryOptions

/-- The setting of a variable, if it stands for one. -/
def SettingValue.ofVariable? (variableName text : String) : Option (String × SettingValue) :=
  (Environment.settingName? variableName).map fun (name, nested) =>
    (name, if nested then .map else Environment.valueOf text)

/-- The settings in an environment. -/
def Layer.ofEnvironment (environment : List (String × String)) : Layer :=
  environment.filterMap fun (name, text) => SettingValue.ofVariable? name text

end QueryOptions
