import PackageInstall.Text.Utf8

namespace PackageInstall.Yaml

abbrev Tag := List UInt8

namespace Tag

def ofText (s : String) : Tag := Utf8.encode s.toList

def core (name : String) : Tag := ofText ("tag:yaml.org,2002:" ++ name)

def ownMark : UInt8 := 0x21

/-- Whether a tag is one of one's own. What follows the mark must be a text. -/
def isOwn : Tag → Bool
  | [] => false
  | b :: rest => b = ownMark && (Utf8.decode? rest).isSome

def untilZero (tag : Tag) : Tag := tag.takeWhile (· ≠ 0)

end Tag

end PackageInstall.Yaml
