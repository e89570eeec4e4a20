import PackageInstall.Json
import PackageInstall.Timestamp.Reader

namespace PackageInstall

inductive ReadFault where
  | wrongType (found : Json) (expected : String)
  | wrongValue (found : String) (expected : String)
  | wrongLength (length : Nat) (expected : String)
  | missingField (name : String)
  | unknownVariant (name : String) (known : List String)
  | timestamp (fault : Timestamp.Fault)
  deriving DecidableEq

namespace ReadFault

def ticked (name : String) : String := "`" ++ name ++ "`"

def choices : List String → String
  | [] => "there are no variants"
  | [a] => "expected " ++ ticked a
  | [a, b] => "expected " ++ ticked a ++ " or " ++ ticked b
  | more => "expected one of " ++ ", ".intercalate (more.map ticked)

def message : ReadFault → String
  | wrongType found expected => "invalid type: " ++ found.describe ++ ", expected " ++ expected
  | wrongValue found expected => "invalid value: " ++ found ++ ", expected " ++ expected
  | wrongLength length expected =>
    "invalid length " ++ toString length ++ ", expected " ++ expected
  | missingField name => "missing field " ++ ticked name
  | unknownVariant name known => "unknown variant " ++ ticked name ++ ", " ++ choices known
  | timestamp fault => fault.message

end ReadFault

end PackageInstall
