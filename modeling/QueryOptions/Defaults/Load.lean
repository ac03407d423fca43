import QueryOptions.Defaults.Environment
import QueryOptions.Defaults.File

/-!
Loading defaults: built-in settings, then a settings file if one is named, then
the environment.
-/

namespace QueryOptions

/-- The settings file that was named. -/
inductive SettingsFile where
  | unnamed
  | missing
  | found (text : String)
  deriving DecidableEq, Repr

/-- Why defaults cannot be loaded. -/
inductive LoadError where
  | missingFile
  | unreadableFile
  | setting (error : SettingError)
  deriving DecidableEq, Repr

/-- The settings of the file, as a reader gives them. -/
def SettingsFile.layerBy (read : String → Option Layer) : SettingsFile → Except LoadError Layer
  | .unnamed => .ok []
  | .missing => .error .missingFile
  | .found text =>
    match read text with
    | some layer => .ok layer
    | none => .error .unreadableFile

/-- Loads defaults with any reader of settings files. -/
def Defaults.loadBy (read : String → Option Layer) (file : SettingsFile)
    (environment : List (String × String)) : Except LoadError Defaults := do
  let layer ← file.layerBy read
  match Defaults.ofLayers [.builtIn, layer, .ofEnvironment environment] with
  | .ok defaults => .ok defaults
  | .error error => .error (.setting error)

def Defaults.load (file : SettingsFile) (environment : List (String × String)) :
    Except LoadError Defaults :=
  Defaults.loadBy Layer.ofFile? file environment

end QueryOptions
