import QueryOptions.Defaults.Layer
import QueryOptions.Yaml.Schema.Core
import QueryOptions.Yaml.Stream

/-!
Settings files: YAML mappings from names to values.
-/

namespace QueryOptions

open Yaml

mutual

/-- Whether collections in a node are nested at most so deep. -/
def Yaml.Node.isWithin : Nat → Node → Bool
  | _, .scalar .. => true
  | levels, .tagged _ node => node.isWithin levels
  | 0, _ => false
  | levels + 1, .sequence items => areWithin levels items
  | levels + 1, .mapping entries => entriesAreWithin levels entries

def Yaml.areWithin (levels : Nat) : List Node → Bool
  | [] => true
  | node :: rest => node.isWithin levels && areWithin levels rest

def Yaml.entriesAreWithin (levels : Nat) : List (Node × Node) → Bool
  | [] => true
  | (key, value) :: rest =>
    key.isWithin levels && value.isWithin levels && entriesAreWithin levels rest

end

/-- How deep a settings file may be nested. -/
def deepestSetting : Nat := 128

/-- The setting that a scalar with the given text is. -/
def SettingValue.ofScalar (text : String) : Core.Scalar → SettingValue
  | .null => .null
  | .bool value => .bool value
  | .unsigned n => .unsigned n
  | .signed n => .signed n
  | .float x => .float x
  | .text => .text text

/-- A scalar without a tag; a quoted one is text whatever it says. -/
def SettingValue.ofUntagged (style : Style) (text : String) : SettingValue :=
  if style = .plain then .ofScalar text (Core.Scalar.ofPlain text) else .text text

/-- A scalar with a tag. The vague tag says nothing about a scalar that is written
out, and no setting is of a kind that is not common to all readers. -/
def SettingValue.ofTagged? (tag : String) (style : Style) (text : String) : Option SettingValue :=
  if tag = vagueTag ∧ ¬ (style = .plain ∧ text = "") then some (.ofUntagged style text)
  else if isOwnTag tag then none
  else (Core.Scalar.ofTagged? tag text).map (.ofScalar text)

mutual

/-- The setting that a node is, if everything in it can be read. -/
def SettingValue.ofNode? : Node → Option SettingValue
  | .scalar style text => some (.ofUntagged style text)
  | .tagged tag (.scalar style text) => SettingValue.ofTagged? tag style text
  | .tagged tag node => if isOwnTag tag then none else SettingValue.ofNode? node
  | .sequence items => if SettingValue.areReadable items then some .sequence else none
  | .mapping entries => (Layer.ofEntries? entries).map fun _ => .map

def SettingValue.areReadable : List Node → Bool
  | [] => true
  | node :: rest => (SettingValue.ofNode? node).isSome && SettingValue.areReadable rest

/-- The settings in a mapping; keys are texts, with or without tags. -/
def Layer.ofEntries? : List (Node × Node) → Option Layer
  | [] => some []
  | (key, value) :: rest => do
    let name ← key.text?
    let value ← SettingValue.ofNode? value
    let settings ← Layer.ofEntries? rest
    some ((name, value) :: settings)

end

/-- The characters that a settings file may hold. -/
def isPrintable (c : Char) : Bool :=
  c = '\t' || c = '\n' || c = '\x0d' || c = '\u0085' || (' ' ≤ c && c ≤ '~') ||
    ('\u00a0' ≤ c && c ≠ '\ufffe' && c ≠ '\uffff')

/-- The settings in a file's text; a text without a character of content has none. -/
def Layer.ofFile? (text : String) : Option Layer :=
  if !text.toList.all isPrintable then none
  else do
    match ← Node.ofText? .settings text with
    | none => some []
    | some node =>
      match node.content with
      | .scalar _ "" => some []
      | .mapping entries => if node.isWithin deepestSetting then ofEntries? entries else none
      | _ => none

end QueryOptions
