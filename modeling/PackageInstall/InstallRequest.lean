import PackageInstall.Resource

namespace PackageInstall

open Reading

inductive PermissionScope where
  | namespaced
  | cluster
  deriving DecidableEq

namespace PermissionScope

def name : PermissionScope → String
  | namespaced => "Namespaced"
  | cluster => "Cluster"

def read : Json → Except ReadFault PermissionScope :=
  choice [(name namespaced, namespaced), (name cluster, cluster)]

def write (s : PermissionScope) : Json := .text s.name

end PermissionScope

inductive InstallKind where
  | stackInstall
  | clusterStackInstall
  deriving DecidableEq

namespace InstallKind

def name : InstallKind → String
  | stackInstall => "StackInstall"
  | clusterStackInstall => "ClusterStackInstall"

def scope : InstallKind → PermissionScope
  | stackInstall => .namespaced
  | clusterStackInstall => .cluster

def read : Json → Except ReadFault InstallKind :=
  choice [(name stackInstall, stackInstall), (name clusterStackInstall, clusterStackInstall)]

def write (k : InstallKind) : Json := .text k.name

end InstallKind

structure InstallSpec where
  package : String
  deriving DecidableEq

namespace InstallSpec

def record : Record InstallSpec := Record.make InstallSpec.mk |>.field (.required "package" text)

def read : Json → Except ReadFault InstallSpec := record.read "InstallSpec"

def write (s : InstallSpec) : Json := .ofFields [("package", .text s.package)]

end InstallSpec

structure InstallStatus where
  stackRecord : Option ObjectReference
  deriving DecidableEq

namespace InstallStatus

def record : Record InstallStatus :=
  Record.make InstallStatus.mk |>.field (.optional "stackRecord" ObjectReference.read)

def read : Json → Except ReadFault InstallStatus := record.read "InstallStatus"

def write (s : InstallStatus) : Json :=
  .ofFields (optionalField "stackRecord" ObjectReference.write s.stackRecord)

end InstallStatus

structure InstallRequest where
  kind : InstallKind
  metadata : Metadata
  spec : InstallSpec
  status : InstallStatus
  deriving DecidableEq

namespace InstallRequest

def ofPackage (kind : InstallKind) (namespaceName name package : String) : InstallRequest :=
  ⟨kind, .ofName namespaceName name, ⟨package⟩, ⟨none⟩⟩

def name (r : InstallRequest) : String := r.metadata.name

def namespaceName (r : InstallRequest) : String := r.metadata.namespaceName

def uid (r : InstallRequest) : String := r.metadata.uid

def image (r : InstallRequest) : String := r.spec.package

def scope (r : InstallRequest) : PermissionScope := r.kind.scope

def coordinates (r : InstallRequest) : Coordinates :=
  ⟨Coordinates.stackGroup, Coordinates.stackVersion, r.kind.name⟩

def asOwner (r : InstallRequest) : OwnerReference :=
  ⟨r.coordinates.apiVersion, r.coordinates.kind, r.name, r.uid, some true, some true⟩

def withStackRecord (r : InstallRequest) (reference : ObjectReference) : InstallRequest :=
  { r with status := ⟨some reference⟩ }

def record : Record InstallRequest :=
  Record.make InstallRequest.mk
  |>.field (.required "kind" InstallKind.read)
  |>.field (.required "metadata" Metadata.read)
  |>.field (.required "spec" InstallSpec.read)
  |>.field (.withDefault "status" InstallStatus.read ⟨none⟩)

def read : Json → Except ReadFault InstallRequest := record.read "InstallRequest"

def fields (r : InstallRequest) : KeyMap Json :=
  .ofList [("kind", r.kind.write), ("metadata", r.metadata.write), ("spec", r.spec.write),
    ("status", r.status.write)]

instance : Resource InstallRequest where
  coordinates := coordinates
  metadata := metadata
  withMetadata r m := { r with metadata := m }
  read := read
  fields := fields

end InstallRequest

end PackageInstall
