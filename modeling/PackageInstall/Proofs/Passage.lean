import PackageInstall.InstallRequest
import PackageInstall.Proofs.Decoding
import PackageInstall.Proofs.Resource
import PackageInstall.Proofs.Workload

namespace PackageInstall

open Reading KeyMap

structure Resource.Faithful {α : Type} [Resource α] (x : α) : Prop where
  apart : (metadata x).Apart
  about : (fields x).get? "metadata" = some (metadata x).write
  typed : Coordinates.ofApiVersion (coordinates x).apiVersion (coordinates x).kind = coordinates x
  readBack : ∀ m : Metadata, m.Apart → (objectWith x m).toResource α = .ok (withMetadata x m)
  own : withMetadata x (metadata x) = x

theorem ClusterRole.faithful {r : ClusterRole} (apart : r.metadata.Apart) :
    Resource.Faithful r where
  apart := apart
  about := by
    show r.fields.get? "metadata" = _
    rw [get?_fields]
    rfl
  typed := by
    show Coordinates.ofApiVersion ClusterRole.coordinates.apiVersion ClusterRole.coordinates.kind =
      ClusterRole.coordinates
    decide
  readBack _ apart := r.toResource_object apart
  own := rfl

namespace Pod

theorem toResource_objectWith (p : Pod) {m : Metadata} (apart : m.Apart) :
    (Resource.objectWith p m).toResource Pod = .ok { p with metadata := m } := by
  let o := Resource.objectWith p m
  have metadata : (Field.required "metadata" Metadata.read).ofObject o.written.entries = .ok m :=
    Field.required_of_some m.write (Resource.get?_objectWith p m _) (Metadata.read_write apart)
  have reads : Pod.read o.write = .ok { p with metadata := m } :=
    ((Record.Reads.make Pod.mk).field metadata).read "Pod"
  exact congrArg (Except.mapError ConversionError.serialization) reads

theorem faithful {p : Pod} (apart : p.metadata.Apart) : Resource.Faithful p where
  apart := apart
  about := rfl
  typed := by
    show Coordinates.ofApiVersion Pod.coordinates.apiVersion Pod.coordinates.kind =
      Pod.coordinates
    decide
  readBack _ apart := p.toResource_objectWith apart
  own := rfl

end Pod

namespace Job

def Apart (j : Job) : Prop := j.metadata.Apart ∧ j.spec.template.metadata.Apart

def entries (j : Job) : List (String × Json) :=
  [("metadata", j.metadata.write), ("spec", j.spec.write)]

theorem get?_fields (j : Job) (k : String) : j.fields.get? k = lookup k j.entries :=
  get?_ofList (by simp) k

theorem toResource_objectWith {j : Job} (apart : j.Apart) {m : Metadata} (apart' : m.Apart) :
    (Resource.objectWith j m).toResource Job = .ok { j with metadata := m } := by
  let o := Resource.objectWith j m
  have metadata : (Field.required "metadata" Metadata.read).ofObject o.written.entries = .ok m :=
    Field.required_of_some m.write (Resource.get?_objectWith j m _) (Metadata.read_write apart')
  have spec : (Field.required "spec" JobSpec.read).ofObject o.written.entries = .ok j.spec := by
    have written : o.written.get? "spec" = j.fields.get? "spec" := Resource.get?_objectWith j m _
    refine Field.required_of_some j.spec.write (written.trans ?_) (JobSpec.read_write apart.2)
    rw [get?_fields]
    rfl
  have reads : Job.read o.write = .ok { j with metadata := m } :=
    (((Record.Reads.make Job.mk).field metadata).field spec).read "Job"
  exact congrArg (Except.mapError ConversionError.serialization) reads

theorem faithful {j : Job} (apart : j.Apart) : Resource.Faithful j where
  apart := apart.1
  about := j.get?_fields _
  typed := by
    show Coordinates.ofApiVersion Job.coordinates.apiVersion Job.coordinates.kind =
      Job.coordinates
    decide
  readBack _ apart' := toResource_objectWith apart apart'
  own := rfl

end Job

theorem InstallKind.read_write (k : InstallKind) : InstallKind.read k.write = .ok k := by
  cases k <;> rfl

theorem InstallSpec.read_write (s : InstallSpec) : InstallSpec.read s.write = .ok s := by
  have package : (Field.required "package" text).ofObject
      (ofList [("package", Json.text s.package)]).entries = .ok s.package :=
    Field.required_of_some (.text s.package) rfl rfl
  exact ((Record.Reads.make InstallSpec.mk).field package).read "InstallSpec"

namespace ObjectReference

def fields (r : ObjectReference) : List (String × Json) :=
  [("apiVersion", .text r.apiVersion), ("kind", .text r.kind), ("name", .text r.name)] ++
  textField "namespace" r.namespaceName ++ textField "uid" r.uid

theorem nodup_fields (r : ObjectReference) : (r.fields.map (·.1)).Nodup := by
  have keys : (r.fields.map (·.1)).Sublist ["apiVersion", "kind", "name", "namespace", "uid"] := by
    simp only [fields, List.map_append]
    exact ((List.Sublist.refl _).append (keys_textField _ _)).append (keys_textField _ _)
  exact List.Nodup.sublist keys (by decide)

theorem read_write (r : ObjectReference) : read r.write = .ok r := by
  have found : ∀ k, (ofList r.fields).get? k = lookup k r.fields := get?_ofList r.nodup_fields
  have apiVersion : (Field.required "apiVersion" text).ofObject (ofList r.fields).entries =
      .ok r.apiVersion :=
    Field.required_of_some (.text r.apiVersion) ((found _).trans (by simp [fields, lookup])) rfl
  have kind : (Field.required "kind" text).ofObject (ofList r.fields).entries = .ok r.kind :=
    Field.required_of_some (.text r.kind) ((found _).trans (by simp [fields, lookup])) rfl
  have name : (Field.required "name" text).ofObject (ofList r.fields).entries = .ok r.name :=
    Field.required_of_some (.text r.name) ((found _).trans (by simp [fields, lookup])) rfl
  have namespaceName : (Field.withDefault "namespace" text "").ofObject
      (ofList r.fields).entries = .ok r.namespaceName := by
    refine Field.text_of_textField ((found _).trans ?_)
    simp [fields, lookup, lookup_append, lookup_textField]
  have uid : (Field.withDefault "uid" text "").ofObject (ofList r.fields).entries = .ok r.uid := by
    refine Field.text_of_textField ((found _).trans ?_)
    simp [fields, lookup, lookup_append, lookup_textField]
  exact ((((((Record.Reads.make ObjectReference.mk).field apiVersion).field kind).field
    name).field namespaceName).field uid).read "ObjectReference"

end ObjectReference

theorem InstallStatus.read_write (s : InstallStatus) : InstallStatus.read s.write = .ok s := by
  let fields := optionalField "stackRecord" ObjectReference.write s.stackRecord
  have nodup : (fields.map (·.1)).Nodup :=
    List.Nodup.sublist (keys_optionalField _ _ _) (by decide)
  have stackRecord : (Field.optional "stackRecord" ObjectReference.read).ofObject
      (ofList fields).entries = .ok s.stackRecord :=
    Field.optional_of_optionalField ObjectReference.write (get?_ofList nodup _)
      ObjectReference.read_write (fun _ => by simp [ObjectReference.write, Json.ofFields])
  exact ((Record.Reads.make InstallStatus.mk).field stackRecord).read "InstallStatus"

namespace InstallRequest

def entries (r : InstallRequest) : List (String × Json) :=
  [("kind", r.kind.write), ("metadata", r.metadata.write), ("spec", r.spec.write),
    ("status", r.status.write)]

theorem get?_fields (r : InstallRequest) (k : String) : r.fields.get? k = lookup k r.entries :=
  get?_ofList (by simp) k

theorem toResource_objectWith (r : InstallRequest) {m : Metadata} (apart : m.Apart) :
    (Resource.objectWith r m).toResource InstallRequest = .ok { r with metadata := m } := by
  let o := Resource.objectWith r m
  have found : ∀ k, o.written.get? k =
      if k ∈ Object.record.names then lookup k o.fields else lookup k r.entries := fun k => by
    rw [← r.get?_fields]
    exact Resource.get?_objectWith r m k
  -- the kind of the object is the kind of the request
  have kind : (Field.required "kind" InstallKind.read).ofObject o.written.entries = .ok r.kind :=
    Field.required_of_some r.kind.write (found _) r.kind.read_write
  have metadata : (Field.required "metadata" Metadata.read).ofObject o.written.entries = .ok m :=
    Field.required_of_some m.write (found _) (Metadata.read_write apart)
  have spec : (Field.required "spec" InstallSpec.read).ofObject o.written.entries = .ok r.spec :=
    Field.required_of_some r.spec.write (found _) r.spec.read_write
  have status : (Field.withDefault "status" InstallStatus.read ⟨none⟩).ofObject
      o.written.entries = .ok r.status :=
    Field.withDefault_of_some r.status.write (found _) r.status.read_write
  have reads : InstallRequest.read o.write = .ok { r with metadata := m } :=
    (((((Record.Reads.make InstallRequest.mk).field kind).field metadata).field spec).field
      status).read "InstallRequest"
  exact congrArg (Except.mapError ConversionError.serialization) reads

theorem faithful {r : InstallRequest} (apart : r.metadata.Apart) : Resource.Faithful r where
  apart := apart
  about := r.get?_fields _
  typed := by
    show Coordinates.ofApiVersion r.coordinates.apiVersion r.coordinates.kind = r.coordinates
    unfold InstallRequest.coordinates
    cases r.kind <;> decide
  readBack _ apart := r.toResource_objectWith apart
  own := rfl

end InstallRequest

-- What has been read, or is built, keeps nothing unread under a key that has a meaning.

theorem metadataField_yields : (Field.required "metadata" Metadata.read).Yields Metadata.Apart :=
  .of_required fun _ _ => Metadata.apart_of_read

theorem ClusterRole.apart_of_read {v : Json} {r : ClusterRole} (reads : ClusterRole.read v = .ok r) :
    r.metadata.Apart := by
  have start : (Record.make ClusterRole.mk).Yields fun build => ∀ m a p,
      (build m a p).metadata = m := .make fun _ _ _ => rfl
  have metadata := start.field (R := fun build => ∀ a p, (build a p).metadata.Apart)
    metadataField_yields fun build m same apart a p => (same m a p).symm ▸ apart
  have rule := metadata.field (R := fun build => ∀ p, (build p).metadata.Apart)
    (.trivial (.optional "aggregationRule" AggregationRule.read)) fun _ a apart _ => apart a
  have rules := rule.field (R := fun r => r.metadata.Apart)
    (.trivial (.withDefault "rules" (list PolicyRule.read) [])) fun _ p apart _ => apart p
  exact rules.read reads

theorem Pod.apart_of_read {v : Json} {p : Pod} (reads : Pod.read v = .ok p) :
    p.metadata.Apart := by
  have start : (Record.make Pod.mk).Yields fun build => ∀ m, (build m).metadata = m :=
    .make fun _ => rfl
  have metadata := start.field (R := fun p => p.metadata.Apart) metadataField_yields
    fun build m same apart => (same m).symm ▸ apart
  exact metadata.read reads

theorem PodTemplate.apart_of_read {v : Json} {t : PodTemplate} (reads : PodTemplate.read v = .ok t) :
    t.metadata.Apart := by
  have field : (Field.withDefault "metadata" Metadata.read .empty).Yields Metadata.Apart :=
    ⟨fun _ _ => Metadata.apart_of_read, fun m absent => by
      obtain rfl := Option.some.inj absent
      exact Metadata.apart_empty⟩
  have start : (Record.make PodTemplate.mk).Yields fun build => ∀ m s, (build m s).metadata = m :=
    .make fun _ _ => rfl
  have metadata := start.field (R := fun build => ∀ s, (build s).metadata.Apart) field
    fun build m same apart s => (same m s).symm ▸ apart
  have spec := metadata.field (R := fun t => t.metadata.Apart)
    (.trivial (.required "spec" PodSpec.read)) fun _ s apart _ => apart s
  exact spec.read reads

theorem JobSpec.apart_of_read {v : Json} {s : JobSpec} (reads : JobSpec.read v = .ok s) :
    s.template.metadata.Apart := by
  have start : (Record.make JobSpec.mk).Yields fun build => ∀ n t, (build n t).template = t :=
    .make fun _ _ => rfl
  have limit := start.field (R := fun build => ∀ t, (build t).template = t)
    (.trivial (.optional "backoffLimit" int32)) fun _ n same _ => same n
  have field : (Field.required "template" PodTemplate.read).Yields fun t => t.metadata.Apart :=
    .of_required fun _ _ => PodTemplate.apart_of_read
  have template := limit.field (R := fun s => s.template.metadata.Apart) field
    fun build t same apart => (same t).symm ▸ apart
  exact template.read reads

theorem Job.apart_of_read {v : Json} {j : Job} (reads : Job.read v = .ok j) : j.Apart := by
  have start : (Record.make Job.mk).Yields fun build => ∀ m s,
      (build m s).metadata = m ∧ (build m s).spec = s := .make fun _ _ => ⟨rfl, rfl⟩
  have metadata := start.field
    (R := fun build => ∀ s, (build s).metadata.Apart ∧ (build s).spec = s)
    metadataField_yields fun build m same apart s =>
      ⟨(same m s).1.symm ▸ apart, (same m s).2⟩
  have field : (Field.required "spec" JobSpec.read).Yields fun s => s.template.metadata.Apart :=
    .of_required fun _ _ => JobSpec.apart_of_read
  have spec := metadata.field (R := Job.Apart) field
    fun build s before apart => ⟨(before s).1, (before s).2.symm ▸ apart⟩
  exact spec.read reads

theorem InstallRequest.apart_of_read {v : Json} {r : InstallRequest}
    (reads : InstallRequest.read v = .ok r) : r.metadata.Apart := by
  have start : (Record.make InstallRequest.mk).Yields fun build => ∀ k m s t,
      (build k m s t).metadata = m := .make fun _ _ _ _ => rfl
  have kind := start.field (R := fun build => ∀ m s t, (build m s t).metadata = m)
    (.trivial (.required "kind" InstallKind.read)) fun _ k same _ => same k
  have metadata := kind.field (R := fun build => ∀ s t, (build s t).metadata.Apart)
    metadataField_yields fun build m same apart s t => (same m s t).symm ▸ apart
  have spec := metadata.field (R := fun build => ∀ t, (build t).metadata.Apart)
    (.trivial (.required "spec" InstallSpec.read)) fun _ s apart _ => apart s
  have status := spec.field (R := fun r => r.metadata.Apart)
    (.trivial (.withDefault "status" InstallStatus.read ⟨none⟩)) fun _ t apart _ => apart t
  exact status.read reads

end PackageInstall
