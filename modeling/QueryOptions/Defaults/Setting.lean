import QueryOptions.Decimal.Binary64
import QueryOptions.Defaults
import QueryOptions.Text.Join
import QueryOptions.Text.Quoted

/-!
Settings as their sources give them: named values of any kind. Each of the four
settings accepts some kinds of value, and any other name is a fault.
-/

namespace QueryOptions

/-- A value in a source of settings; no setting looks into a compound one. -/
inductive SettingValue where
  | null
  | bool (value : Bool)
  | unsigned (n : Nat)
  | signed (n : Int)
  | float (x : Decimal.Binary64)
  | text (value : String)
  | sequence
  | map
  deriving DecidableEq, Repr

/-- What is wrong with a setting. -/
inductive SettingFault where
  | unknownName (name : String)
  | wrongKind (found : SettingValue) (expected : String)
  | negative (n : Int)
  deriving DecidableEq, Repr

namespace SettingValue

/-- What a value is, when something else is expected. -/
def kind : SettingValue → String
  | .null => "unit"
  | .bool value => "bool " ++ (if value then "true" else "false")
  | .unsigned n =>
    if n ≤ Decimal.greatestUnsigned then "unsigned int `" ++ Decimal.natText n ++ "`"
    else "integer `" ++ Decimal.natText n ++ "` as u128"
  | .signed n =>
    if Decimal.leastSigned ≤ n ∧ n ≤ Decimal.greatestSigned then
      "signed int `" ++ Decimal.intText n ++ "`"
    else "integer `" ++ Decimal.intText n ++ "` as i128"
  | .float x => "float `" ++ x.text ++ "`"
  | .text value => "string " ++ Text.displayQuoted value
  | .sequence => "sequence"
  | .map => "map"

/-- A number that may be left open. -/
def asNumber : SettingValue → Except SettingFault (Option Nat)
  | .null => .ok none
  | .unsigned n =>
    if n ≤ Decimal.greatestUnsigned then .ok (some n) else .error (.wrongKind (.unsigned n) "u64")
  | .signed n =>
    if n < Decimal.leastSigned ∨ Decimal.greatestSigned < n then
      .error (.wrongKind (.signed n) "u64")
    else if n < 0 then .error (.negative n)
    else .ok (some n.toNat)
  | value => .error (.wrongKind value "u64")

def asFlag : SettingValue → Except SettingFault Bool
  | .bool value => .ok value
  | value => .error (.wrongKind value "a boolean")

end SettingValue

namespace Defaults

/-- The names of the settings. -/
def names : List String :=
  ["default_top", "default_skip", "pagination_enabled", "default_show_count"]

/-- Sets the named setting. -/
def set (name : String) (value : SettingValue) (d : Defaults) : Except SettingFault Defaults :=
  match name with
  | "default_top" => value.asNumber.map fun top => { d with top := top }
  | "default_skip" => value.asNumber.map fun skip => { d with skip := skip }
  | "pagination_enabled" => value.asFlag.map fun pagination => { d with pagination := pagination }
  | "default_show_count" => value.asFlag.map fun showCount => { d with showCount := showCount }
  | _ => .error (.unknownName name)

end Defaults

def SettingFault.message : SettingFault → String
  | .unknownName name =>
    "unknown field: found `" ++ name ++ "`, expected `one of " ++
      Text.join ", " (Defaults.names.map fun known => "`" ++ known ++ "`") ++ "`"
  | .wrongKind found expected => "invalid type: found " ++ found.kind ++ ", expected " ++ expected
  | .negative n => "invalid value signed int `" ++ Decimal.intText n ++ "`, expected u64"

end QueryOptions
