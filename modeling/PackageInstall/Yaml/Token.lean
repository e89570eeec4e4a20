import PackageInstall.Yaml.Tag

namespace PackageInstall.Yaml

inductive Token where
  | version (major minor : Nat)
  | handle (name : String) (expansion : Tag)
  | documentStart
  | documentEnd
  | streamEnd
  | blockSequence
  | blockMapping
  | blockEnd
  | flowSequence
  | flowSequenceEnd
  | flowMapping
  | flowMappingEnd
  | blockEntry
  | flowEntry
  | key
  | value
  | alias (name : String)
  | anchor (name : String)
  | tag (handle : String) (suffix : Tag)
  | scalar (plain : Bool) (text : String)
  deriving DecidableEq

end PackageInstall.Yaml
