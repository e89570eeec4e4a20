import PackageInstall.Job
import PackageInstall.Proofs.Metadata

namespace PackageInstall

open Reading KeyMap

theorem RestartPolicy.read_write (p : RestartPolicy) : RestartPolicy.read p.write = .ok p := by
  cases p <;> rfl

namespace VolumeMount

def fields (m : VolumeMount) : List (String × Json) :=
  [("name", .text m.name), ("mountPath", .text m.mountPath)]

theorem read_write (m : VolumeMount) : read m.write = .ok m := by
  have found : ∀ k, (ofList m.fields).get? k = lookup k m.fields := get?_ofList (by simp [fields])
  have name : (Field.required "name" text).ofObject (ofList m.fields).entries = .ok m.name :=
    Field.required_of_some (.text m.name) (found _) rfl
  have mountPath : (Field.required "mountPath" text).ofObject (ofList m.fields).entries =
      .ok m.mountPath :=
    Field.required_of_some (.text m.mountPath) (found _) rfl
  exact (((Record.Reads.make VolumeMount.mk).field name).field mountPath).read "VolumeMount"

end VolumeMount

namespace Container

def fields (c : Container) : List (String × Json) :=
  [("name", .text c.name), ("image", .text c.image)] ++ textsField "command" c.command ++
  textsField "args" c.args ++ listField "volumeMounts" VolumeMount.write c.volumeMounts

theorem nodup_fields (c : Container) : (c.fields.map (·.1)).Nodup := by
  have keys : (c.fields.map (·.1)).Sublist ["name", "image", "command", "args", "volumeMounts"] := by
    simp only [fields, List.map_append]
    exact (((List.Sublist.refl _).append (keys_listField _ _ _)).append
      (keys_listField _ _ _)).append (keys_listField _ _ _)
  exact List.Nodup.sublist keys (by decide)

theorem read_write (c : Container) : read c.write = .ok c := by
  have found : ∀ k, (ofList c.fields).get? k = lookup k c.fields := get?_ofList c.nodup_fields
  have name : (Field.required "name" text).ofObject (ofList c.fields).entries = .ok c.name :=
    Field.required_of_some (.text c.name) ((found _).trans (by simp [fields, lookup])) rfl
  have image : (Field.required "image" text).ofObject (ofList c.fields).entries = .ok c.image :=
    Field.required_of_some (.text c.image) ((found _).trans (by simp [fields, lookup])) rfl
  have command : (Field.withDefault "command" (list text) []).ofObject
      (ofList c.fields).entries = .ok c.command := by
    refine Field.list_of_listField Json.text ?_ fun _ _ => rfl
    exact (found _).trans (by simp [fields, textsField, lookup, lookup_append, lookup_listField])
  have args : (Field.withDefault "args" (list text) []).ofObject (ofList c.fields).entries =
      .ok c.args := by
    refine Field.list_of_listField Json.text ?_ fun _ _ => rfl
    exact (found _).trans (by simp [fields, textsField, lookup, lookup_append, lookup_listField])
  have volumeMounts : (Field.withDefault "volumeMounts" (list VolumeMount.read) []).ofObject
      (ofList c.fields).entries = .ok c.volumeMounts := by
    refine Field.list_of_listField VolumeMount.write ?_ fun m _ => m.read_write
    exact (found _).trans (by simp [fields, textsField, lookup, lookup_append, lookup_listField])
  exact ((((((Record.Reads.make Container.mk).field name).field image).field command).field
    args).field volumeMounts).read "Container"

end Container

namespace Volume

def fields (v : Volume) : List (String × Json) :=
  [("name", .text v.name)] ++ optionalField "emptyDir" EmptyDirectory.write v.emptyDirectory

theorem nodup_fields (v : Volume) : (v.fields.map (·.1)).Nodup := by
  have keys : (v.fields.map (·.1)).Sublist ["name", "emptyDir"] := by
    simp only [fields, List.map_append]
    exact (List.Sublist.refl _).append (keys_optionalField _ _ _)
  exact List.Nodup.sublist keys (by decide)

theorem read_write (v : Volume) : read v.write = .ok v := by
  have found : ∀ k, (ofList v.fields).get? k = lookup k v.fields := get?_ofList v.nodup_fields
  have name : (Field.required "name" text).ofObject (ofList v.fields).entries = .ok v.name :=
    Field.required_of_some (.text v.name) ((found _).trans (by simp [fields, lookup])) rfl
  have emptyDir : (Field.optional "emptyDir" EmptyDirectory.read).ofObject
      (ofList v.fields).entries = .ok v.emptyDirectory := by
    refine Field.optional_of_optionalField EmptyDirectory.write ?_ (fun _ => rfl)
      (fun _ => by simp [EmptyDirectory.write])
    exact (found _).trans (by simp [fields, lookup])
  exact (((Record.Reads.make Volume.mk).field name).field emptyDir).read "Volume"

end Volume

namespace PodSpec

def fields (s : PodSpec) : List (String × Json) :=
  optionalField "restartPolicy" RestartPolicy.write s.restartPolicy ++
  listField "initContainers" Container.write s.initContainers ++
  [("containers", .array (s.containers.map Container.write))] ++
  listField "volumes" Volume.write s.volumes

theorem nodup_fields (s : PodSpec) : (s.fields.map (·.1)).Nodup := by
  have keys : (s.fields.map (·.1)).Sublist
      ["restartPolicy", "initContainers", "containers", "volumes"] := by
    simp only [fields, List.map_append]
    exact (((keys_optionalField _ _ _).append (keys_listField _ _ _)).append
      (List.Sublist.refl _)).append (keys_listField _ _ _)
  exact List.Nodup.sublist keys (by decide)

theorem read_write (s : PodSpec) : read s.write = .ok s := by
  have found : ∀ k, (ofList s.fields).get? k = lookup k s.fields := get?_ofList s.nodup_fields
  have restartPolicy : (Field.optional "restartPolicy" RestartPolicy.read).ofObject
      (ofList s.fields).entries = .ok s.restartPolicy := by
    refine Field.optional_of_optionalField RestartPolicy.write ?_ RestartPolicy.read_write
      (fun _ => by simp [RestartPolicy.write])
    exact (found _).trans (by simp [fields, lookup, lookup_append, lookup_listField])
  have initContainers : (Field.withDefault "initContainers" (list Container.read) []).ofObject
      (ofList s.fields).entries = .ok s.initContainers := by
    refine Field.list_of_listField Container.write ?_ fun c _ => c.read_write
    exact (found _).trans (by simp [fields, lookup, lookup_append, lookup_listField, lookup_optionalField])
  have containers : (Field.required "containers" (list Container.read)).ofObject
      (ofList s.fields).entries = .ok s.containers := by
    refine Field.required_of_some _ ?_ (list_write fun c _ => c.read_write)
    exact (found _).trans (by simp [fields, lookup, lookup_append, lookup_listField, lookup_optionalField])
  have volumes : (Field.withDefault "volumes" (list Volume.read) []).ofObject
      (ofList s.fields).entries = .ok s.volumes := by
    refine Field.list_of_listField Volume.write ?_ fun v _ => v.read_write
    exact (found _).trans (by simp [fields, lookup, lookup_append, lookup_listField, lookup_optionalField])
  exact (((((Record.Reads.make PodSpec.mk).field restartPolicy).field initContainers).field
    containers).field volumes).read "PodSpec"

end PodSpec

theorem Reading.int32_write (n : Int32) : int32 (.int n.toInt) = .ok n := by
  have power : (twoTo 31 : Int) = 2 ^ 31 := rfl
  have fits : fitsSigned 31 n.toInt = true := by
    rw [fitsSigned, power, Bool.decide_and, Bool.and_eq_true, decide_eq_true_iff,
      decide_eq_true_iff]
    exact ⟨n.le_toInt, n.toInt_lt⟩
  rw [int32, if_pos fits, Int32.ofInt_toInt]

namespace PodTemplate

def fields (t : PodTemplate) : List (String × Json) :=
  [("metadata", t.metadata.write), ("spec", t.spec.write)]

theorem read_write {t : PodTemplate} (apart : t.metadata.Apart) : read t.write = .ok t := by
  have found : ∀ k, (ofList t.fields).get? k = lookup k t.fields := get?_ofList (by simp [fields])
  have metadata : (Field.withDefault "metadata" Metadata.read .empty).ofObject
      (ofList t.fields).entries = .ok t.metadata :=
    Field.withDefault_of_some t.metadata.write (found _) (Metadata.read_write apart)
  have spec : (Field.required "spec" PodSpec.read).ofObject (ofList t.fields).entries =
      .ok t.spec :=
    Field.required_of_some t.spec.write (found _) t.spec.read_write
  exact (((Record.Reads.make PodTemplate.mk).field metadata).field spec).read "PodTemplateSpec"

end PodTemplate

namespace JobSpec

def fields (s : JobSpec) : List (String × Json) :=
  optionalField "backoffLimit" (fun n => .int n.toInt) s.backoffLimit ++
  [("template", s.template.write)]

theorem nodup_fields (s : JobSpec) : (s.fields.map (·.1)).Nodup := by
  have keys : (s.fields.map (·.1)).Sublist ["backoffLimit", "template"] := by
    simp only [fields, List.map_append]
    exact (keys_optionalField _ _ _).append (List.Sublist.refl _)
  exact List.Nodup.sublist keys (by decide)

theorem read_write {s : JobSpec} (apart : s.template.metadata.Apart) : read s.write = .ok s := by
  have found : ∀ k, (ofList s.fields).get? k = lookup k s.fields := get?_ofList s.nodup_fields
  have backoffLimit : (Field.optional "backoffLimit" int32).ofObject (ofList s.fields).entries =
      .ok s.backoffLimit := by
    refine Field.optional_of_optionalField (fun n : Int32 => .int n.toInt) ?_ int32_write
      (fun _ => by simp)
    exact (found _).trans (by simp [fields, lookup, lookup_append])
  have template : (Field.required "template" PodTemplate.read).ofObject
      (ofList s.fields).entries = .ok s.template := by
    refine Field.required_of_some s.template.write ?_ (PodTemplate.read_write apart)
    exact (found _).trans (by simp [fields, lookup, lookup_append, lookup_optionalField])
  exact (((Record.Reads.make JobSpec.mk).field backoffLimit).field template).read "JobSpec"

end JobSpec

end PackageInstall
