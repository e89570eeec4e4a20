import PackageInstall.Settings.Setting

namespace PackageInstall

inductive Found where
  | atom (value : Atom)
  | list
  | table
  deriving DecidableEq

namespace Found

def ofSetting : Setting → Found
  | .atom _ value => atom value
  | .list .. => list
  | .table .. => table

def name : Found → String
  | atom .null => "unit value"
  | atom (.bool value) => "boolean `" ++ (if value then "true" else "false") ++ "`"
  | atom (.int value) => "integer `" ++ toString value ++ "`"
  | atom (.float value) => "floating point `" ++ value.pointed ++ "`"
  | atom (.text value) => "string " ++ Text.quoted value
  | list => "sequence"
  | table => "map"

end Found

inductive SettingsFault where
  /-- The file is no text of its format, or does not hold a table. -/
  | badFile
  | notText (key : String) (origin : Option Origin) (found : Found)
  | notTruth (key : String) (origin : Option Origin) (found : Found)
  | notLogging (found : Found)
  /-- A path leads before the start of a list. The program stops there and loads nothing. -/
  | stray
  deriving DecidableEq

namespace SettingsFault

def mismatch (found : Found) (expected : String) : String :=
  "invalid type: " ++ found.name ++ ", expected " ++ expected

def place (key : String) (origin : Option Origin) : String :=
  " for key `" ++ key ++ "`" ++ (origin.map fun o => " in " ++ o.name).getD ""

def message : SettingsFault → String
  | badFile => "<file syntax>"
  | notText key origin found => mismatch found "a string" ++ place key origin
  | notTruth key origin found => mismatch found "a boolean" ++ place key origin
  | notLogging found => mismatch found "struct LoggingConfig"
  | stray => "attempt to subtract with overflow"

end SettingsFault

end PackageInstall
