import PackageInstall.ClusterRole
import PackageInstall.Provenance

namespace PackageInstall

inductive Persona where
  | admin
  | edit
  | view
  deriving DecidableEq

namespace Persona

def name : Persona → String
  | admin => "admin"
  | edit => "edit"
  | view => "view"

def all : List Persona := [admin, edit, view]

def defaultRolePrefix : String := "crossplane"

def aggregateLabel : String := "rbac.crossplane.io/aggregate-to-namespace"

def roleNameOf (rolePrefix namespaceName persona : String) : String :=
  rolePrefix ++ ":ns:" ++ namespaceName ++ ":" ++ persona

def roleName (p : Persona) (rolePrefix namespaceName : String) : String :=
  roleNameOf rolePrefix namespaceName p.name

def namespaceSelector (p : Persona) (namespaceName : String) : Selector :=
  .ofLabels [(aggregateLabel ++ "-" ++ p.name, "true"),
    (Provenance.namespaceLabel namespaceName, "true")]

def defaultSelector (p : Persona) : Selector :=
  .ofLabels [(aggregateLabel ++ "-default-" ++ p.name, "true")]

def role (p : Persona) (request : InstallRequest) (rolePrefix : String) : ClusterRole :=
  let namespaceName := request.namespaceName
  let metadata := (Metadata.ofName "" (p.roleName rolePrefix namespaceName)).addLabels
    [(Provenance.namespaceLabel namespaceName, "true")]
  { metadata := (Provenance.ofParent request).apply metadata
    aggregationRule := some ⟨[p.namespaceSelector namespaceName, p.defaultSelector]⟩
    rules := [] }

/-- The roles that a request brings with it: none if it is for the whole cluster. -/
def roles (request : InstallRequest) (rolePrefix : String) : List ClusterRole :=
  match request.scope with
  | .namespaced => all.map fun p => p.role request rolePrefix
  | .cluster => []

end Persona

end PackageInstall
