import QueryOptions.Defaults.Setting

/-!
Layers of settings. Layers are merged name by name, and for each name the
highest layer that has it gives the value. What the merged settings are is
checked after that, so only values that win can be at fault.
-/

namespace QueryOptions

/-- The settings of one source; of several with one name the last counts. -/
abbrev Layer := List (String × SettingValue)

namespace Layer

/-- The settings that hold if nothing else is said. -/
def builtIn : Layer :=
  [("default_top", .null),
   ("default_skip", .null),
   ("pagination_enabled", .bool false),
   ("default_show_count", .bool false)]

/-- The value of a name in layers given from the lowest to the highest. -/
def valueOf? (layers : List Layer) (name : String) : Option SettingValue :=
  layers.flatten.reverse.lookup name

/-- Puts a name into its place in an ascending list unless it is there. -/
def insertName (name : String) : List String → List String
  | [] => [name]
  | next :: rest =>
    if name < next then name :: next :: rest
    else if name = next then next :: rest
    else next :: insertName name rest

/-- The names that occur in any layer, in alphabetical order. -/
def names (layers : List Layer) : List String :=
  layers.flatten.foldr (fun setting found => insertName setting.1 found) []

end Layer

/-- A setting at fault. -/
structure SettingError where
  name : String
  fault : SettingFault
  deriving DecidableEq, Repr

namespace Defaults

/-- Sets the named settings to what the layers give them. -/
def setAll (layers : List Layer) : List String → Defaults → Except SettingError Defaults
  | [], d => .ok d
  | name :: rest, d =>
    match d.set name ((Layer.valueOf? layers name).getD .null) with
    | .ok d => setAll layers rest d
    | .error fault => .error ⟨name, fault⟩

/-- The defaults that layers describe, or the alphabetically first fault. -/
def ofLayers (layers : List Layer) : Except SettingError Defaults :=
  setAll layers (Layer.names layers) {}

end Defaults

end QueryOptions
