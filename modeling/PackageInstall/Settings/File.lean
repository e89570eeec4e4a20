import PackageInstall.Json.Reader
import PackageInstall.Settings.Ini
import PackageInstall.Settings.Json5
import PackageInstall.Settings.Layers
import PackageInstall.Settings.Ron
import PackageInstall.Settings.Yaml.Document
import PackageInstall.Toml.Document

namespace PackageInstall

structure SettingsFile where
  name : String
  content : String

namespace SettingsFile

inductive Format where
  | toml
  | json
  | yaml
  | ini
  | ron
  | json5
  deriving DecidableEq

def formats : List (String × Format) :=
  [("toml", .toml), ("json", .json), ("yaml", .yaml), ("yml", .yaml), ("ini", .ini), ("ron", .ron),
    ("json5", .json5)]

def Format.read (format : Format) (content : String) : Option Json :=
  match format with
  | .toml => Toml.read content.toList
  | .json =>
    match Json.readAll content.toUTF8.toList with
    | ([v], none) => some v
    | _ => none
  | .yaml => Settings.Yaml.read content.toList
  | .ini => Settings.Ini.read content.toList
  | .ron => Settings.Ron.read content.toList
  | .json5 => Settings.Json5.read content.toList

def parts (path : String) : List String :=
  (path.splitOn "/").filter fun part => part ≠ "" ∧ part ≠ "."

def namesFile (path : String) : Bool :=
  !(["", "."].contains ((path.splitOn "/").getLastD ""))

def isAbsolute (path : String) : Bool := path.startsWith "/"

/-- What follows the last point of a file name, unless the name begins with it. -/
def ending (fileName : String) : Option String :=
  let cs := fileName.toList.reverse
  let after := cs.takeWhile (· ≠ '.')
  if after.length + 1 < cs.length ∧ fileName ≠ ".." then some (String.ofList after.reverse)
  else none

def formatOf (fileName : String) : Option Format :=
  (ending fileName).bind fun e => KeyMap.lookup e formats

/-- The format of a file that a path names, if it is known. A file of just that name comes before
those with an ending added. -/
def formatAt (file : SettingsFile) (path : String) : Option Format :=
  let found := parts file.name
  let wanted := parts path
  if isAbsolute path then none
  else if namesFile path ∧ found = wanted then formatOf (wanted.getLastD "")
  else if wanted.isEmpty then none
  else (formats.find? fun f =>
    found = wanted.dropLast ++ [wanted.getLastD "" ++ "." ++ f.1]).map (·.2)

def shownName (file : SettingsFile) : String := "/".intercalate (parts file.name)

def layer (file : SettingsFile) (format : Format) : Except SettingsFault Layer :=
  match format.read file.content with
  | some (.object fields) => .ok (Setting.ofFields (.file file.shownName) fields)
  | _ => .error .badFile

end SettingsFile

namespace Settings

def ofFile (file : Option SettingsFile) (path : Option String) : Except SettingsFault Layer :=
  match file, path with
  | some file, some path =>
    match file.formatAt path with
    | some format => file.layer format
    | none => .ok []
  | _, _ => .ok []

/-- The defaults, then the file at a path if there is one, then the environment. -/
def load (file : Option SettingsFile) (path : Option String)
    (environment : List (String × String)) : Except SettingsFault Settings := do
  ofLayers [default.layer, ← ofFile file path, ofEnvironment environment]

end Settings

end PackageInstall
