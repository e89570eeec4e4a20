import PackageInstall.PodSpec
import PackageInstall.Resource

namespace PackageInstall

open Reading

structure PodTemplate where
  metadata : Metadata
  spec : PodSpec
  deriving DecidableEq

namespace PodTemplate

def record : Record PodTemplate :=
  Record.make PodTemplate.mk
  |>.field (.withDefault "metadata" Metadata.read .empty)
  |>.field (.required "spec" PodSpec.read)

def read : Json → Except ReadFault PodTemplate := record.read "PodTemplateSpec"

def write (t : PodTemplate) : Json :=
  .ofFields [("metadata", t.metadata.write), ("spec", t.spec.write)]

end PodTemplate

structure JobSpec where
  backoffLimit : Option Int32
  template : PodTemplate
  deriving DecidableEq

namespace JobSpec

def record : Record JobSpec :=
  Record.make JobSpec.mk
  |>.field (.optional "backoffLimit" int32)
  |>.field (.required "template" PodTemplate.read)

def read : Json → Except ReadFault JobSpec := record.read "JobSpec"

def write (s : JobSpec) : Json :=
  .ofFields <|
    optionalField "backoffLimit" (fun n => .int n.toInt) s.backoffLimit ++
    [("template", s.template.write)]

end JobSpec

structure Job where
  metadata : Metadata
  spec : JobSpec
  deriving DecidableEq

namespace Job

def coordinates : Coordinates := ⟨"batch", "v1", "Job"⟩

def record : Record Job :=
  Record.make Job.mk
  |>.field (.required "metadata" Metadata.read)
  |>.field (.required "spec" JobSpec.read)

def read : Json → Except ReadFault Job := record.read "Job"

def fields (j : Job) : KeyMap Json :=
  .ofList [("metadata", j.metadata.write), ("spec", j.spec.write)]

instance : Resource Job where
  coordinates _ := coordinates
  metadata := metadata
  withMetadata j m := { j with metadata := m }
  read := read
  fields := fields

end Job

structure Pod where
  metadata : Metadata
  deriving DecidableEq

namespace Pod

def coordinates : Coordinates := ⟨"", "v1", "Pod"⟩

def jobLabel : String := "job-name"

def ofJob (job : Job) (name : String) : Pod :=
  ⟨(Metadata.ofName job.metadata.namespaceName name).addLabels [(jobLabel, job.metadata.name)]⟩

def record : Record Pod := Record.make Pod.mk |>.field (.required "metadata" Metadata.read)

def read : Json → Except ReadFault Pod := record.read "Pod"

def fields (p : Pod) : KeyMap Json := .ofList [("metadata", p.metadata.write)]

instance : Resource Pod where
  coordinates _ := coordinates
  metadata := metadata
  withMetadata p m := { p with metadata := m }
  read := read
  fields := fields

end Pod

end PackageInstall
