import PackageInstall.Settings
import PackageInstall.Settings.Environment
import PackageInstall.Settings.Fault

namespace PackageInstall

abbrev Layer := List (String × Setting)

namespace Setting

def asText (key : String) : Setting → Except SettingsFault String
  | atom _ (.text s) => .ok s
  | atom _ (.bool b) => .ok (if b then "true" else "false")
  | atom _ (.int n) => .ok (toString n)
  | atom _ (.float x) => .ok x.plain
  | atom origin .null => .error (.notText key origin (.atom .null))
  | list origin _ => .error (.notText key origin .list)
  | table origin _ => .error (.notText key origin .table)

def truthOf (word : String) : Option Bool :=
  if word ∈ ["1", "true", "on", "yes"] then some true
  else if word ∈ ["0", "false", "off", "no"] then some false
  else none

def asTruth (key : String) : Setting → Except SettingsFault Bool
  | atom _ (.bool b) => .ok b
  | atom _ (.int n) => .ok (n ≠ 0)
  | atom _ (.float x) => .ok (x.magnitude ≠ 0)
  | atom origin (.text s) =>
    let word := Text.lower s
    match truthOf word with
    | some b => .ok b
    | none => .error (.notTruth key origin (.atom (.text word)))
  | atom origin .null => .error (.notTruth key origin (.atom .null))
  | list origin _ => .error (.notTruth key origin .list)
  | table origin _ => .error (.notTruth key origin .table)

def orDefault (read : Setting → Except SettingsFault α) (default : α) (setting : Option Setting) :
    Except SettingsFault α :=
  (setting.map read).getD (.ok default)

end Setting

namespace Logging

open Setting

/-- Reads a table, or a list of the level and the form. -/
def ofSetting : Setting → Except SettingsFault Logging
  | .table _ entries => do
    let json ← orDefault (asTruth "logging.json") default.json (KeyMap.lookup "json" entries)
    let level ← orDefault (asText "logging.level") default.level (KeyMap.lookup "level" entries)
    return ⟨level, json⟩
  | .list _ items => do
    let level ← orDefault (asText "logging[0]") default.level items[0]?
    let json ← orDefault (asTruth "logging[1]") default.json items[1]?
    return ⟨level, json⟩
  | .atom _ value => .error (.notLogging (.atom value))

def entries (l : Logging) : List (String × Setting) :=
  [("json", .atom none (.bool l.json)), ("level", .atom none (.text l.level))]

end Logging

namespace Settings

open Setting

def lay (entries : List (String × Setting)) (layer : Layer) : List (String × Setting) :=
  layer.foldl (fun entries e => assign entries e.1 e.2) entries

def layStrays (entries : List (String × Setting)) : Layer → Bool
  | [] => false
  | e :: rest => assignStrays entries e.1 || layStrays (assign entries e.1 e.2) rest

def layAll (layers : List Layer) : List (String × Setting) := layers.foldl lay []

def ofEntries (entries : List (String × Setting)) : Except SettingsFault Settings := do
  let executorImage ← orDefault (asText "executor_image") default.executorImage
    (KeyMap.lookup "executor_image" entries)
  let logging ← orDefault Logging.ofSetting default.logging (KeyMap.lookup "logging" entries)
  let rolePrefix ← orDefault (asText "role_prefix") default.rolePrefix
    (KeyMap.lookup "role_prefix" entries)
  return ⟨executorImage, rolePrefix, logging⟩

def layer (s : Settings) : Layer :=
  [("executor_image", .atom none (.text s.executorImage)),
    ("logging", .table none s.logging.entries),
    ("role_prefix", .atom none (.text s.rolePrefix))]

def ofLayers (layers : List Layer) : Except SettingsFault Settings :=
  if layStrays [] layers.flatten then .error .stray else ofEntries (layAll layers)

end Settings

end PackageInstall
