import PackageInstall.Resource
import PackageInstall.Selector
import PackageInstall.PodSpec

namespace PackageInstall

open Reading

structure PolicyRule where
  apiGroups : List String
  resources : List String
  verbs : List String
  deriving DecidableEq

namespace PolicyRule

def record : Record PolicyRule :=
  Record.make PolicyRule.mk
  |>.field (.withDefault "apiGroups" (list text) [])
  |>.field (.withDefault "resources" (list text) [])
  |>.field (.required "verbs" (list text))

def read : Json → Except ReadFault PolicyRule := record.read "PolicyRule"

def write (r : PolicyRule) : Json :=
  .ofFields [("apiGroups", texts r.apiGroups), ("resources", texts r.resources),
    ("verbs", texts r.verbs)]

end PolicyRule

structure AggregationRule where
  selectors : List Selector
  deriving DecidableEq

namespace AggregationRule

def record : Record AggregationRule :=
  Record.make AggregationRule.mk
  |>.field (.required "clusterRoleSelectors" (list Selector.read))

def read : Json → Except ReadFault AggregationRule := record.read "AggregationRule"

def write (r : AggregationRule) : Json :=
  .ofFields [("clusterRoleSelectors", .array (r.selectors.map Selector.write))]

def collects (r : AggregationRule) (labels : Labels) : Bool :=
  r.selectors.any fun s => s.admits labels

end AggregationRule

structure ClusterRole where
  metadata : Metadata
  aggregationRule : Option AggregationRule
  rules : List PolicyRule
  deriving DecidableEq

namespace ClusterRole

def coordinates : Coordinates := ⟨"rbac.authorization.k8s.io", "v1", "ClusterRole"⟩

def name (r : ClusterRole) : String := r.metadata.name

def record : Record ClusterRole :=
  Record.make ClusterRole.mk
  |>.field (.required "metadata" Metadata.read)
  |>.field (.optional "aggregationRule" AggregationRule.read)
  |>.field (.withDefault "rules" (list PolicyRule.read) [])

def read : Json → Except ReadFault ClusterRole := record.read "ClusterRole"

def fields (r : ClusterRole) : KeyMap Json :=
  .ofList <|
    [("metadata", r.metadata.write)] ++
    optionalField "aggregationRule" AggregationRule.write r.aggregationRule ++
    listField "rules" PolicyRule.write r.rules

instance : Resource ClusterRole where
  coordinates _ := coordinates
  metadata := metadata
  withMetadata r m := { r with metadata := m }
  read := read
  fields := fields

end ClusterRole

end PackageInstall
