import PackageInstall.Reading.Fault

namespace PackageInstall.Reading

def text : Json → Except ReadFault String
  | .text value => .ok value
  | other => .error (.wrongType other "a string")

def bool : Json → Except ReadFault Bool
  | .bool value => .ok value
  | other => .error (.wrongType other "a boolean")

def int32 : Json → Except ReadFault Int32
  | .int value =>
    if fitsSigned 31 value then .ok (Int32.ofInt value)
    else .error (.wrongValue (Json.int value).describe "i32")
  | other => .error (.wrongType other "i32")

def timestamp : Json → Except ReadFault Timestamp
  | .text value => (Timestamp.ofText value).mapError .timestamp
  | other => .error (.wrongType other "an RFC 3339 formatted date and time string")

def list (read : Json → Except ReadFault α) : Json → Except ReadFault (List α)
  | .array items => items.mapM read
  | other => .error (.wrongType other "a sequence")

/-- The entries are read in key order. -/
def map (read : Json → Except ReadFault α) : Json → Except ReadFault (KeyMap α)
  | .object fields => (fields.mapM fun e => (read e.2).map (e.1, ·)).map KeyMap.ofList
  | other => .error (.wrongType other "a map")

/-- An explicit null is no value. -/
def optional (read : Json → Except ReadFault α) : Json → Except ReadFault (Option α)
  | .null => .ok none
  | other => (read other).map some

/-- An explicit null is the empty value. -/
def orEmpty (read : Json → Except ReadFault α) (empty : α) (value : Json) : Except ReadFault α :=
  (optional read value).map (·.getD empty)

def named (choices : List (String × α)) (name : String) : Except ReadFault α :=
  match KeyMap.lookup name choices with
  | some choice => .ok choice
  | none => .error (.unknownVariant name (choices.map (·.1)))

/-- A choice is a name, or an object with the name as its only key and null under it. -/
def choice (choices : List (String × α)) : Json → Except ReadFault α
  | .text name => named choices name
  | .object [(name, content)] => do
    let choice ← named choices name
    if content = .null then .ok choice else .error (.wrongType content "unit")
  | .object _ => .error (.wrongValue "map" "map with a single key")
  | other => .error (.wrongType other "string or map")

end PackageInstall.Reading
