import PackageInstall.Proofs.Lossless
import PackageInstall.Proofs.Passage

namespace PackageInstall

open Reading KeyMap

def Metadata.field : Reading.Field Metadata := .required "metadata" read

structure SameButMetadata (a b : KeyMap Json) : Prop where
  others : ∀ k, k ≠ "metadata" → a.get? k = b.get? k
  metadata : Metadata.field.ofObject a.entries = Metadata.field.ofObject b.entries

theorem SameButMetadata.symm {a b : KeyMap Json} (same : SameButMetadata a b) :
    SameButMetadata b a := ⟨fun k other => (same.others k other).symm, same.metadata.symm⟩

theorem SameButMetadata.field {a b : KeyMap Json} (same : SameButMetadata a b) {α : Type}
    {f : Reading.Field α} (other : f.name ≠ "metadata") {x : α}
    (reads : f.ofObject a.entries = .ok x) : f.ofObject b.entries = .ok x :=
  Field.ofObject_congr (same.others f.name other) ▸ reads

namespace Resource

structure ReadByFields (α : Type) [Resource α] : Prop where
  metadata : ∀ {m : KeyMap Json} {x : α}, read (.ofMap m) = .ok x →
    Metadata.field.ofObject m.entries = .ok (metadata x)
  congr : ∀ {a b : KeyMap Json} {x : α}, SameButMetadata a b → read (.ofMap a) = .ok x →
    read (.ofMap b) = .ok x

end Resource

namespace Pod

theorem read_iff {m : KeyMap Json} {p : Pod} :
    read (.ofMap m) = .ok p ↔ Metadata.field.ofObject m.entries = .ok p.metadata := by
  have sound : record.Sound := (Record.Sound.make _).field _
  rw [read, Record.read_ofMap_iff sound]
  simp only [record, Record.ofObject_field_iff, Record.ofObject_make_iff]
  constructor
  · rintro ⟨_, rfl, metadata, a, rfl⟩
    exact a
  · exact fun a => ⟨_, rfl, _, a, rfl⟩

theorem readByFields : Resource.ReadByFields Pod where
  metadata reads := read_iff.1 reads
  congr same reads := read_iff.2 (same.metadata ▸ read_iff.1 reads)

end Pod

namespace Job

theorem read_iff {m : KeyMap Json} {j : Job} :
    read (.ofMap m) = .ok j ↔ Metadata.field.ofObject m.entries = .ok j.metadata ∧
      (Field.required "spec" JobSpec.read).ofObject m.entries = .ok j.spec := by
  have sound : record.Sound := ((Record.Sound.make _).field _).field _
  rw [read, Record.read_ofMap_iff sound]
  simp only [record, Record.ofObject_field_iff, Record.ofObject_make_iff]
  constructor
  · rintro ⟨_, ⟨_, rfl, metadata, a, rfl⟩, spec, b, rfl⟩
    exact ⟨a, b⟩
  · exact fun ⟨a, b⟩ => ⟨_, ⟨_, rfl, _, a, rfl⟩, _, b, rfl⟩

theorem readByFields : Resource.ReadByFields Job where
  metadata reads := (read_iff.1 reads).1
  congr same reads := by
    obtain ⟨a, b⟩ := read_iff.1 reads
    exact read_iff.2 ⟨same.metadata ▸ a, same.field (by simp [Field.required]) b⟩

end Job

namespace ClusterRole

theorem read_iff {m : KeyMap Json} {r : ClusterRole} :
    read (.ofMap m) = .ok r ↔ Metadata.field.ofObject m.entries = .ok r.metadata ∧
      (Field.optional "aggregationRule" AggregationRule.read).ofObject m.entries =
        .ok r.aggregationRule ∧
      (Field.withDefault "rules" (list PolicyRule.read) []).ofObject m.entries = .ok r.rules := by
  have sound : record.Sound := (((Record.Sound.make _).field _).field _).field _
  rw [read, Record.read_ofMap_iff sound]
  simp only [record, Record.ofObject_field_iff, Record.ofObject_make_iff]
  constructor
  · rintro ⟨_, ⟨_, ⟨_, rfl, metadata, a, rfl⟩, rule, b, rfl⟩, rules, c, rfl⟩
    exact ⟨a, b, c⟩
  · exact fun ⟨a, b, c⟩ => ⟨_, ⟨_, ⟨_, rfl, _, a, rfl⟩, _, b, rfl⟩, _, c, rfl⟩

theorem readByFields : Resource.ReadByFields ClusterRole where
  metadata reads := (read_iff.1 reads).1
  congr same reads := by
    obtain ⟨a, b, c⟩ := read_iff.1 reads
    exact read_iff.2 ⟨same.metadata ▸ a, same.field (by simp [Field.optional]) b,
      same.field (by simp [Field.withDefault]) c⟩

end ClusterRole

namespace InstallRequest

theorem read_iff {m : KeyMap Json} {r : InstallRequest} :
    read (.ofMap m) = .ok r ↔
      (Field.required "kind" InstallKind.read).ofObject m.entries = .ok r.kind ∧
      Metadata.field.ofObject m.entries = .ok r.metadata ∧
      (Field.required "spec" InstallSpec.read).ofObject m.entries = .ok r.spec ∧
      (Field.withDefault "status" InstallStatus.read ⟨none⟩).ofObject m.entries =
        .ok r.status := by
  have sound : record.Sound := ((((Record.Sound.make _).field _).field _).field _).field _
  rw [read, Record.read_ofMap_iff sound]
  simp only [record, Record.ofObject_field_iff, Record.ofObject_make_iff]
  constructor
  · rintro ⟨_, ⟨_, ⟨_, ⟨_, rfl, kind, a, rfl⟩, metadata, b, rfl⟩, spec, c, rfl⟩, status, d, rfl⟩
    exact ⟨a, b, c, d⟩
  · exact fun ⟨a, b, c, d⟩ =>
      ⟨_, ⟨_, ⟨_, ⟨_, rfl, _, a, rfl⟩, _, b, rfl⟩, _, c, rfl⟩, _, d, rfl⟩

theorem readByFields : Resource.ReadByFields InstallRequest where
  metadata reads := (read_iff.1 reads).2.1
  congr same reads := by
    obtain ⟨a, b, c, d⟩ := read_iff.1 reads
    exact read_iff.2 ⟨same.field (by simp [Field.required]) a, same.metadata ▸ b,
      same.field (by simp [Field.required]) c, same.field (by simp [Field.withDefault]) d⟩

end InstallRequest

namespace Object

variable {m : KeyMap Json} {d : Object}

theorem sameButMetadata_written {n : KeyMap Json} (reads : ofJson (.ofMap m) = .ok d)
    (others : ∀ k, k ≠ "metadata" → n.get? k = m.get? k)
    (about : Metadata.field.ofObject n.entries = .ok d.metadata) :
    SameButMetadata d.written n := by
  obtain ⟨metadata, rest⟩ := get?_written_of_ofJson reads
  obtain ⟨-, -, source, -⟩ := ofJson_iff.1 reads
  have back : Metadata.field.ofObject d.written.entries = .ok d.metadata :=
    Field.required_of_some _ metadata (Metadata.read_write source.apart)
  exact ⟨fun k other => (rest k other).trans (others k other).symm, back.trans about.symm⟩

end Object

def Json.withField (v : Json) (k : String) (content : Json) : Json :=
  match v with
  | .object fields => .object (KeyMap.place k content fields)
  | other => other

namespace Resource

/-- Whether a document is read as a resource does not depend on whether its object is read in its
stead, unless the document has no metadata. -/
structure ReadsAlike (α : Type) [Resource α] (v : Json) (d : Object) : Prop where
  kept : ∀ x : α, Resource.read v = .ok x → d.toResource α = .ok x
  filled : ∀ x : α, d.toResource α = .ok x → (∀ y : α, Resource.read v ≠ .ok y) →
    (v.field? "metadata" = none ∨ v.field? "metadata" = some .null) ∧
    Resource.read (v.withField "metadata" (.object [])) = .ok x

theorem ReadByFields.readsAlike {α : Type} [Resource α] (byFields : ReadByFields α)
    {m : KeyMap Json} {d : Object} (reads : Object.ofJson (.ofMap m) = .ok d) :
    ReadsAlike α (.ofMap m) d := by
  obtain ⟨-, -, source, -⟩ := Object.ofJson_iff.1 reads
  rcases source with ⟨missing, empty⟩ | ⟨v, found, about⟩
  · have absent : ∀ a, Metadata.field.ofObject m.entries ≠ .ok a := by
      intro a present
      obtain ⟨v, there, about⟩ := Field.required_eq_ok_iff.1 present
      rcases missing with missing | null
      · rw [missing] at there
        cases there
      · rw [null] at there
        cases there
        cases about
    refine ⟨fun x direct => absurd (byFields.metadata direct) (absent _), fun x through _ => ?_⟩
    have blank : (m.insert "metadata" (.object [])).get? "metadata" = some (.object []) := by
      rw [get?_insert, if_pos rfl]
    have same : SameButMetadata d.written (m.insert "metadata" (.object [])) := by
      refine Object.sameButMetadata_written reads (fun k other => ?_) ?_
      · rw [get?_insert, if_neg other]
      · exact Field.required_of_some _ blank (empty ▸ rfl)
    exact ⟨missing, byFields.congr same (mapError_eq_ok_iff.1 through)⟩
  · have same : SameButMetadata d.written m :=
      Object.sameButMetadata_written reads (fun _ _ => rfl) (Field.required_of_some v found about)
    refine ⟨fun x direct => mapError_eq_ok_iff.2 (byFields.congr same.symm direct), ?_⟩
    intro x through refuses
    exact absurd (byFields.congr same (mapError_eq_ok_iff.1 through)) (refuses x)

/-- Requests, jobs, pods and cluster roles are read through objects as they are read directly. -/
theorem read_through_object {v : Json} {d : Object} (formed : v.Formed)
    (reads : Object.ofJson v = .ok d) :
    ReadsAlike InstallRequest v d ∧ ReadsAlike Job v d ∧ ReadsAlike Pod v d ∧
      ReadsAlike ClusterRole v d := by
  have isObject : Object.isObject v = true := by
    cases v with
    | object fields => rfl
    | _ => cases reads
  obtain ⟨m, rfl, -⟩ := formed.exists_map isObject
  exact ⟨InstallRequest.readByFields.readsAlike reads, Job.readByFields.readsAlike reads,
    Pod.readByFields.readsAlike reads, ClusterRole.readByFields.readsAlike reads⟩

def sampleDocument : Json :=
  .object [("apiVersion", .text "stacks.crossplane.io/v1alpha1"), ("kind", .text "StackInstall"),
    ("metadata", .object [("labels", .null), ("name", .text "redis")]),
    ("spec", .object [("package", .text "registry.local/redis:1.0")])]

def sampleBarePod : Json := .object [("apiVersion", .text "v1"), ("kind", .text "Pod")]

theorem sampleDocument_formed : sampleDocument.Formed := by
  have metadata : (Json.object [("labels", .null), ("name", .text "redis")]).Formed :=
    .object (by decide) (by simpa using ⟨.null, .text "redis"⟩)
  have spec : (Json.object [("package", .text "registry.local/redis:1.0")]).Formed :=
    .object (List.pairwise_singleton _ _) (by simpa using .text _)
  exact .object (by decide) (by simpa using ⟨.text _, .text _, metadata, spec⟩)

theorem sampleBarePod_formed : sampleBarePod.Formed :=
  .object (by decide) (by simpa using ⟨.text _, .text _⟩)

theorem read_through_object_sample :
    let request := InstallRequest.ofPackage .stackInstall "" "redis" "registry.local/redis:1.0"
    sampleDocument.Formed ∧ sampleBarePod.Formed ∧
    (∃ d, Object.ofJson sampleDocument = .ok d ∧ InstallRequest.read sampleDocument = .ok request ∧
      d.toResource InstallRequest = .ok request) ∧
    ∃ d, Object.ofJson sampleBarePod = .ok d ∧ (∀ p, Pod.read sampleBarePod ≠ .ok p) ∧
      d.toResource Pod = .ok ⟨.empty⟩ ∧
      Pod.read (sampleBarePod.withField "metadata" (.object [])) = .ok ⟨.empty⟩ := by
  intro request
  have reads : InstallRequest.read sampleDocument = .ok request := rfl
  have refuses : ∀ p, Pod.read sampleBarePod ≠ .ok p := by
    have missing : Pod.read sampleBarePod = .error (.missingField "metadata") := rfl
    intro p direct
    rw [missing] at direct
    cases direct
  obtain ⟨kept, -⟩ := (read_through_object sampleDocument_formed rfl).1
  obtain ⟨-, -, filled, -⟩ := read_through_object sampleBarePod_formed rfl
  refine ⟨sampleDocument_formed, sampleBarePod_formed, ⟨_, rfl, reads, kept request reads⟩,
    ⟨_, rfl, refuses, rfl, ?_⟩⟩
  exact (filled.filled ⟨.empty⟩ rfl refuses).2

end Resource

end PackageInstall
