import PackageInstall.Coordinates
import PackageInstall.Metadata

namespace PackageInstall

open Reading

inductive ConversionError where
  | serialization (fault : ReadFault)
  | notAnObject
  | missingField (name : String)
  deriving DecidableEq

def ConversionError.message : ConversionError → String
  | serialization fault => "Serialization error: " ++ fault.message
  | notAnObject => "Object is not a mapping"
  | missingField name => "Object '" ++ name ++ "' is missing"

structure Object where
  apiVersion : String
  kind : String
  metadata : Metadata
  rest : KeyMap Json
  deriving DecidableEq, Inhabited

namespace Object

def ofCoordinates (c : Coordinates) (metadata : Metadata) : Object :=
  ⟨c.apiVersion, c.kind, metadata, .empty⟩

def coordinates (o : Object) : Coordinates := .ofApiVersion o.apiVersion o.kind

def name (o : Object) : String := o.metadata.name

def namespaceName (o : Object) : String := o.metadata.namespaceName

def IsStackRecord (o : Object) : Prop := o.coordinates.IsStackRecord

instance (o : Object) : Decidable o.IsStackRecord :=
  inferInstanceAs (Decidable (Coordinates.IsStackRecord _))

def IsSchemaDefinition (o : Object) : Prop := o.coordinates.IsSchemaDefinition

instance (o : Object) : Decidable o.IsSchemaDefinition :=
  inferInstanceAs (Decidable (Coordinates.IsSchemaDefinition _))

def record : Record (KeyMap Json → Object) :=
  Record.make Object.mk
  |>.field (.withDefault "apiVersion" text "")
  |>.field (.withDefault "kind" text "")
  |>.field (.withDefault "metadata" (orEmpty Metadata.read .empty) .empty)

def read : Json → Except ReadFault Object := record.readOpen "DynamicObject"

def fields (o : Object) : List (String × Json) :=
  [("apiVersion", .text o.apiVersion), ("kind", .text o.kind), ("metadata", o.metadata.write)]

def write (o : Object) : Json := .ofMap ((KeyMap.ofList o.fields).union o.rest)

def isObject : Json → Bool
  | .object _ => true
  | _ => false

def ofJson (value : Json) : Except ConversionError Object := do
  if isObject value = false then throw .notAnObject
  let object ← (read value).mapError .serialization
  if object.kind = "" then throw (.missingField "kind")
  if object.apiVersion = "" then throw (.missingField "apiVersion")
  return object

end Object

end PackageInstall
