import PackageInstall.Json.Reader
import PackageInstall.Object
import PackageInstall.Yaml

namespace PackageInstall

inductive SyntaxFault where
  | yaml
  | json (fault : Json.FaultAt)
  deriving DecidableEq

inductive DecodeError where
  | yaml (document : Nat)
  | json (document : Nat) (fault : Json.FaultAt)
  | object (document : Nat) (error : ConversionError)
  deriving DecidableEq

namespace DecodeError

def message : DecodeError → String
  | yaml document => "invalid YAML in document " ++ toString document
  | json document fault => "invalid JSON in document " ++ toString document ++ ": " ++ fault.message
  | object document error =>
    "document " ++ toString document ++ " is not a resource: " ++ error.message

def ofSyntax (document : Nat) : SyntaxFault → DecodeError
  | .yaml => .yaml document
  | .json fault => .json document fault

end DecodeError

namespace Documents

/-- An object, nothing for an empty document, or an error. -/
abbrev Item := Except DecodeError (Option Object)

def isBlank (b : UInt8) : Bool := b = 0x20 ∨ b = 0x09 ∨ b = 0x0A ∨ b = 0x0C ∨ b = 0x0D

def isJson (bytes : List UInt8) : Bool := bytes.find? (fun b => !isBlank b) = some 0x7B

def parse (bytes : List UInt8) : List (Except SyntaxFault Json) :=
  if isJson bytes then
    let (values, fault) := Json.readAll bytes
    values.map .ok ++ (fault.map fun f => .error (.json f)).toList
  else (Yaml.readAll bytes).map fun value =>
    match value with
    | some value => .ok value
    | none => .error .yaml

def itemOf (document : Nat) : Except SyntaxFault Json → Item
  | .error fault => .error (.ofSyntax document fault)
  | .ok .null => .ok none
  | .ok value => ((Object.ofJson value).map some).mapError (.object document)

structure Decoder where
  parsed : List (Except SyntaxFault Json)
  position : Nat
  exhausted : Bool

namespace Decoder

def ofParsed (parsed : List (Except SyntaxFault Json)) : Decoder := ⟨parsed, 0, false⟩

def ofBytes (bytes : List UInt8) : Decoder := ofParsed (parse bytes)

/-- Draws an item. After an error and after the end there is none. -/
def next (d : Decoder) : Option Item × Decoder :=
  if d.exhausted then (none, d)
  else
    match d.parsed with
    | [] => (none, { d with exhausted := true })
    | value :: rest =>
      let item := itemOf d.position value
      (some item, ⟨rest, d.position + 1, !item.isOk⟩)

def drain : Nat → Decoder → List Item × Decoder
  | 0, d => ([], d)
  | left + 1, d =>
    match d.next with
    | (none, d) => ([], d)
    | (some item, d) =>
      let (items, d) := drain left d
      (item :: items, d)

def collect (d : Decoder) : List Item × Decoder := d.drain (d.parsed.length + 1)

end Decoder

def decode (bytes : List UInt8) : List Item := (Decoder.ofBytes bytes).collect.1

end Documents

end PackageInstall
