import PackageInstall.Metadata

namespace PackageInstall

open Reading

def texts (values : List String) : Json := .array (values.map .text)

def textsField (name : String) (values : List String) : List (String × Json) :=
  listField name .text values

inductive RestartPolicy where
  | always
  | onFailure
  | never
  deriving DecidableEq

namespace RestartPolicy

def name : RestartPolicy → String
  | always => "Always"
  | onFailure => "OnFailure"
  | never => "Never"

def read : Json → Except ReadFault RestartPolicy :=
  choice [(name always, always), (name onFailure, onFailure), (name never, never)]

def write (p : RestartPolicy) : Json := .text p.name

end RestartPolicy

structure VolumeMount where
  name : String
  mountPath : String
  deriving DecidableEq

namespace VolumeMount

def record : Record VolumeMount :=
  Record.make VolumeMount.mk
  |>.field (.required "name" text)
  |>.field (.required "mountPath" text)

def read : Json → Except ReadFault VolumeMount := record.read "VolumeMount"

def write (m : VolumeMount) : Json :=
  .ofFields [("name", .text m.name), ("mountPath", .text m.mountPath)]

end VolumeMount

structure Container where
  name : String
  image : String
  command : List String
  args : List String
  volumeMounts : List VolumeMount
  deriving DecidableEq

namespace Container

def record : Record Container :=
  Record.make Container.mk
  |>.field (.required "name" text)
  |>.field (.required "image" text)
  |>.field (.withDefault "command" (list text) [])
  |>.field (.withDefault "args" (list text) [])
  |>.field (.withDefault "volumeMounts" (list VolumeMount.read) [])

def read : Json → Except ReadFault Container := record.read "Container"

def write (c : Container) : Json :=
  .ofFields <|
    [("name", .text c.name), ("image", .text c.image)] ++ textsField "command" c.command ++
    textsField "args" c.args ++ listField "volumeMounts" VolumeMount.write c.volumeMounts

end Container

structure EmptyDirectory where
  deriving DecidableEq

namespace EmptyDirectory

def record : Record EmptyDirectory := Record.make ⟨⟩

def read : Json → Except ReadFault EmptyDirectory := record.read "EmptyDirVolumeSource"

def write (_ : EmptyDirectory) : Json := .object []

end EmptyDirectory

structure Volume where
  name : String
  emptyDirectory : Option EmptyDirectory
  deriving DecidableEq

namespace Volume

def record : Record Volume :=
  Record.make Volume.mk
  |>.field (.required "name" text)
  |>.field (.optional "emptyDir" EmptyDirectory.read)

def read : Json → Except ReadFault Volume := record.read "Volume"

def write (v : Volume) : Json :=
  .ofFields <|
    [("name", .text v.name)] ++ optionalField "emptyDir" EmptyDirectory.write v.emptyDirectory

end Volume

structure PodSpec where
  restartPolicy : Option RestartPolicy
  initContainers : List Container
  containers : List Container
  volumes : List Volume
  deriving DecidableEq

namespace PodSpec

def record : Record PodSpec :=
  Record.make PodSpec.mk
  |>.field (.optional "restartPolicy" RestartPolicy.read)
  |>.field (.withDefault "initContainers" (list Container.read) [])
  |>.field (.required "containers" (list Container.read))
  |>.field (.withDefault "volumes" (list Volume.read) [])

def read : Json → Except ReadFault PodSpec := record.read "PodSpec"

def write (s : PodSpec) : Json :=
  .ofFields <|
    optionalField "restartPolicy" RestartPolicy.write s.restartPolicy ++
    listField "initContainers" Container.write s.initContainers ++
    [("containers", .array (s.containers.map Container.write))] ++
    listField "volumes" Volume.write s.volumes

end PodSpec

end PackageInstall
