import PackageInstall.InstallRequest
import PackageInstall.Selector

/-!
Provenance labels. An object of the whole cluster cannot have an owner in a namespace, so what is
created on behalf of a parent bears six labels that name the parent in full.
-/

namespace PackageInstall

structure Provenance where
  group : String
  version : String
  kind : String
  namespaceName : String
  name : String
  uid : String
  deriving DecidableEq

namespace Provenance

def groupKey : String := "core.crossplane.io/parent-group"

def versionKey : String := "core.crossplane.io/parent-version"

def kindKey : String := "core.crossplane.io/parent-kind"

def namespaceKey : String := "core.crossplane.io/parent-namespace"

def nameKey : String := "core.crossplane.io/parent-name"

def uidKey : String := "core.crossplane.io/parent-uid"

def keys : List String := [groupKey, versionKey, kindKey, namespaceKey, nameKey, uidKey]

def namespacePrefix : String := "namespace.crossplane.io/"

def namespaceLabel (namespaceName : String) : String := namespacePrefix ++ namespaceName

def ofParent [Resource α] (parent : α) : Provenance :=
  let c := Resource.coordinates parent
  let m := Resource.metadata parent
  ⟨c.group, c.version, c.kind, m.namespaceName, m.name, m.uid⟩

def pairs (p : Provenance) : List (String × String) :=
  [(groupKey, p.group), (versionKey, p.version), (kindKey, p.kind),
    (namespaceKey, p.namespaceName), (nameKey, p.name), (uidKey, p.uid)]

def labels (p : Provenance) : Labels := .ofList p.pairs

def apply (p : Provenance) (m : Metadata) : Metadata := m.addLabels p.labels.entries

def selector (p : Provenance) : Selector := ⟨p.labels⟩

end Provenance

end PackageInstall
