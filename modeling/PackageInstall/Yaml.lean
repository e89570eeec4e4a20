import PackageInstall.Yaml.Lexer
import PackageInstall.Yaml.Value

namespace PackageInstall.Yaml

/-- The value of each document up to the first that cannot be read. A stream without documents
counts as one that holds nothing. -/
def readAll (bytes : List UInt8) : List (Option Json) :=
  match Document.ofTokens (Token.ofSource (Source.ofBytes bytes)) with
  | [] => [some .null]
  | documents => documents.map fun d => d.bind Document.value

end PackageInstall.Yaml
