import PackageInstall.Reading.Record

namespace PackageInstall

open Reading

abbrev Labels := KeyMap String

def textField (name value : String) : List (String × Json) :=
  if value = "" then [] else [(name, .text value)]

def optionalField (name : String) (write : α → Json) (value : Option α) : List (String × Json) :=
  value.toList.map fun v => (name, write v)

def listField (name : String) (write : α → Json) (values : List α) : List (String × Json) :=
  if values.isEmpty then [] else [(name, .array (values.map write))]

def Labels.write (labels : Labels) : Json :=
  .ofFields (labels.entries.map fun e => (e.1, .text e.2))

def labelsField (name : String) (labels : Labels) : List (String × Json) :=
  if labels.isEmpty then [] else [(name, labels.write)]

structure OwnerReference where
  apiVersion : String
  kind : String
  name : String
  uid : String
  controller : Option Bool
  blockOwnerDeletion : Option Bool
  deriving DecidableEq

namespace OwnerReference

def record : Record OwnerReference :=
  Record.make OwnerReference.mk
  |>.field (.required "apiVersion" text)
  |>.field (.required "kind" text)
  |>.field (.required "name" text)
  |>.field (.required "uid" text)
  |>.field (.optional "controller" bool)
  |>.field (.optional "blockOwnerDeletion" bool)

def read : Json → Except ReadFault OwnerReference := record.read "OwnerReference"

def write (r : OwnerReference) : Json :=
  .ofFields <|
    [("apiVersion", .text r.apiVersion), ("kind", .text r.kind), ("name", .text r.name),
      ("uid", .text r.uid)] ++
    optionalField "controller" .bool r.controller ++
    optionalField "blockOwnerDeletion" .bool r.blockOwnerDeletion

end OwnerReference

structure ObjectReference where
  apiVersion : String
  kind : String
  name : String
  namespaceName : String
  uid : String
  deriving DecidableEq

namespace ObjectReference

def record : Record ObjectReference :=
  Record.make ObjectReference.mk
  |>.field (.required "apiVersion" text)
  |>.field (.required "kind" text)
  |>.field (.required "name" text)
  |>.field (.withDefault "namespace" text "")
  |>.field (.withDefault "uid" text "")

def read : Json → Except ReadFault ObjectReference := record.read "ObjectReference"

def write (r : ObjectReference) : Json :=
  .ofFields <|
    [("apiVersion", .text r.apiVersion), ("kind", .text r.kind), ("name", .text r.name)] ++
    textField "namespace" r.namespaceName ++ textField "uid" r.uid

end ObjectReference

structure Metadata where
  name : String
  namespaceName : String
  uid : String
  labels : Labels
  ownerReferences : List OwnerReference
  creationTimestamp : Option Timestamp
  rest : KeyMap Json
  deriving DecidableEq

namespace Metadata

def empty : Metadata := ⟨"", "", "", .empty, [], none, .empty⟩

instance : Inhabited Metadata := ⟨empty⟩

def ofName (namespaceName name : String) : Metadata :=
  { empty with name := name, namespaceName := namespaceName }

def addLabels (m : Metadata) (labels : List (String × String)) : Metadata :=
  { m with labels := m.labels.insertAll labels }

def record : Record (KeyMap Json → Metadata) :=
  Record.make Metadata.mk
  |>.field (.withDefault "name" text "")
  |>.field (.withDefault "namespace" text "")
  |>.field (.withDefault "uid" text "")
  |>.field (.withDefault "labels" (orEmpty (map text) .empty) .empty)
  |>.field (.withDefault "ownerReferences" (orEmpty (list OwnerReference.read) []) [])
  |>.field (.optional "creationTimestamp" timestamp)

def read : Json → Except ReadFault Metadata := record.readOpen "ObjectMeta"

def fields (m : Metadata) : List (String × Json) :=
  textField "name" m.name ++ textField "namespace" m.namespaceName ++ textField "uid" m.uid ++
    labelsField "labels" m.labels ++
    listField "ownerReferences" OwnerReference.write m.ownerReferences ++
    optionalField "creationTimestamp" (fun t => .text t.text) m.creationTimestamp

/-- Other fields are written last, so they win over those with a meaning. -/
def write (m : Metadata) : Json := .ofMap ((KeyMap.ofList m.fields).union m.rest)

end Metadata

end PackageInstall
