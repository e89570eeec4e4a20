import PackageInstall.Proofs.Passage
import PackageInstall.Proofs.Persona
import PackageInstall.Proofs.Plan
import PackageInstall.UnpackJob

namespace PackageInstall

namespace Resource

variable {α : Type} [Resource α]

def key (x : α) : ObjectKey := ⟨(metadata x).namespaceName, (metadata x).name⟩

def assigned (x : α) (i : Identity) : α :=
  withMetadata x { metadata x with uid := i.uid, creationTimestamp := some i.created }

theorem Faithful.place {x : α} (faithful : Faithful x) :
    (object x).place = (coordinates x, key x) := by
  rw [Object.place, Object.coordinates, object, faithful.typed]
  rfl

theorem Faithful.toObject {x : α} (faithful : Faithful x) :
    Resource.toObject x = .ok (object x) := toObject_eq faithful.about faithful.apart

theorem Faithful.toResource {x : α} (faithful : Faithful x) :
    (object x).toResource α = .ok x := by
  have back := faithful.readBack (metadata x) faithful.apart
  rw [faithful.own] at back
  exact back

theorem Faithful.toResource_identified {x : α} (faithful : Faithful x) (i : Identity) :
    (Store.identified (object x) i).toResource α = .ok (assigned x i) := by
  refine faithful.readBack _ fun k known => ?_
  exact faithful.apart k known

end Resource

namespace Cluster

open Resource

variable {α : Type} [Resource α] {c : Cluster} {x : α}

theorem Calm.run_createTyped (calm : c.Calm) (faithful : Faithful x) :
    (c.run (createTyped x)).1 =
      (c.store.create (object x) (c.identities c.store.issued)).map
        (fun _ => assigned x (c.identities c.store.issued)) ∧
    (c.run (createTyped x)).2.store = c.store.absorb c.identities (object x) := by
  obtain ⟨notes, unfolded⟩ := run_createTyped_of_written c faithful.toObject
  have reply : c.createReply (object x) =
      (c.store.create (object x) (c.identities c.store.issued)).map (·.1) := by
    rw [createReply, calm.failure?_eq]
  have store : (c.creating (object x)).store = c.store.absorb c.identities (object x) := by
    rw [creating, calm.failure?_eq]
  rw [unfolded, reply]
  cases done : c.store.create (object x) (c.identities c.store.issued) with
  | error e => exact ⟨rfl, store⟩
  | ok result =>
    obtain ⟨stored, after⟩ := result
    have back := faithful.toResource_identified (c.identities c.store.issued)
    rw [← Store.eq_identified_of_create done] at back
    exact ⟨congrArg (Except.mapError StoreError.conversion) back, store⟩

theorem Calm.run_findTyped (calm : c.Calm) (t : Coordinates) (k : ObjectKey) {o : Object}
    (found : c.store.find? t k = some o) :
    (c.run (findTyped α t k)).1 = (o.toResource α).mapError .conversion := by
  have answer : c.store.get t k = .ok o := by
    rw [Store.get, found]
  unfold findTyped
  rw [run_bind, run_find, calm.failure?_eq, answer]
  show ((c.entered (.get t k)).run (converted (o.toResource α))).1 = _
  rw [run_converted]

end Cluster

namespace Resource

open Cluster

variable {α : Type} [Resource α]

/-- A resource that is the same after its passage to an object and back, and that the store, where
no call fails, refuses and stays as it is, or takes and gives back with what it assigns. -/
structure Survives (x : α) : Prop where
  passes : ∃ o, toObject x = .ok o ∧ o.coordinates = coordinates x ∧ o.metadata = metadata x ∧
    o.toResource α = .ok x ∧ ∀ y : α, o.toResource α = .ok y → toObject y = .ok o
  nameless : ∀ c : Cluster, c.Calm → (metadata x).name = "" →
    (c.run (createTyped x)).1 =
      .error (.invalid ((coordinates x).kind ++ " object has no name")) ∧
    (c.run (createTyped x)).2.store = c.store
  taken : ∀ c : Cluster, c.Calm → (metadata x).name ≠ "" →
    (coordinates x, key x) ∈ c.store.places →
    (c.run (createTyped x)).1 = .error (.alreadyExists (coordinates x).kind (key x)) ∧
    (c.run (createTyped x)).2.store = c.store
  created : ∀ c : Cluster, c.Calm → (metadata x).name ≠ "" →
    (coordinates x, key x) ∉ c.store.places →
    let i := c.identities c.store.issued
    let after := (c.run (createTyped x)).2.store
    (c.run (createTyped x)).1 = .ok (assigned x i) ∧
    (∃ o, toObject x = .ok o ∧
      after.entries = c.store.entries ++ [Store.entryOf o i c.store.issued]) ∧
    ∀ d : Cluster, d.Calm → d.store = after →
      (d.run (findTyped α (coordinates x) (key x))).1 = .ok (assigned x i)
  converted : ∀ c : Cluster, c.Calm → ∀ e, (c.run (createTyped x)).1 ≠ .error (.conversion e)

theorem Faithful.survives {x : α} (faithful : Faithful x) : Survives x := by
  have place := faithful.place
  have kind : (object x).coordinates.kind = (coordinates x).kind :=
    congrArg (fun p => p.1.kind) place
  have objectKey : ObjectKey.ofObject (object x) = key x := congrArg Prod.snd place
  have nameless : ∀ c : Cluster, c.Calm → (metadata x).name = "" →
      (c.run (createTyped x)).1 =
        .error (.invalid ((coordinates x).kind ++ " object has no name")) ∧
      (c.run (createTyped x)).2.store = c.store := by
    intro c calm nameless
    have unnamed : (object x).name = "" := nameless
    obtain ⟨answer, store⟩ := calm.run_createTyped faithful
    rw [answer, store, Store.create_of_nameless _ unnamed, Store.absorb_of_nameless unnamed]
    exact ⟨rfl, rfl⟩
  have taken : ∀ c : Cluster, c.Calm → (metadata x).name ≠ "" →
      (coordinates x, key x) ∈ c.store.places →
      (c.run (createTyped x)).1 = .error (.alreadyExists (coordinates x).kind (key x)) ∧
      (c.run (createTyped x)).2.store = c.store := by
    intro c calm named taken
    have isNamed : (object x).name ≠ "" := named
    rw [← place] at taken
    obtain ⟨answer, store⟩ := calm.run_createTyped faithful
    rw [answer, store, Store.create_of_taken _ isNamed taken, Store.absorb_of_taken taken, kind,
      objectKey]
    exact ⟨rfl, rfl⟩
  have created : ∀ c : Cluster, c.Calm → (metadata x).name ≠ "" →
      (coordinates x, key x) ∉ c.store.places →
      (c.run (createTyped x)).1 = .ok (assigned x (c.identities c.store.issued)) ∧
      (c.run (createTyped x)).2.store = ⟨c.store.entries ++
        [Store.entryOf (object x) (c.identities c.store.issued) c.store.issued],
        c.store.issued + 1⟩ := by
    intro c calm named free
    have isNamed : (object x).name ≠ "" := named
    rw [← place] at free
    obtain ⟨answer, store⟩ := calm.run_createTyped faithful
    rw [answer, store, Store.create_of_free _ isNamed free, Store.absorb_of_free isNamed free]
    exact ⟨rfl, rfl⟩
  refine ⟨⟨object x, faithful.toObject, congrArg Prod.fst place, rfl, faithful.toResource, ?_⟩,
    nameless, taken, ?_, ?_⟩
  · intro y back
    rw [faithful.toResource] at back
    rw [← Except.ok.inj back]
    exact faithful.toObject
  · intro c calm named free
    obtain ⟨answer, store⟩ := created c calm named free
    refine ⟨answer, ⟨object x, faithful.toObject, congrArg Store.entries store⟩, ?_⟩
    intro d calm' same
    have found : d.store.find? (coordinates x) (key x) =
        some (Store.identified (object x) (c.identities c.store.issued)) := by
      rw [same, store]
      exact Store.find?_of_joining free ((Store.entryOf_place _ _ _).trans place) _
    rw [calm'.run_findTyped _ _ found, faithful.toResource_identified]
    rfl
  · intro c calm e converted
    by_cases named : (metadata x).name = ""
    · rw [(nameless c calm named).1] at converted
      cases converted
    · by_cases there : (coordinates x, key x) ∈ c.store.places
      · rw [(taken c calm named there).1] at converted
        cases converted
      · rw [(created c calm named there).1] at converted
        cases converted

/-- A type whose values survive if they keep nothing unread under a key that has a meaning, as
those do that have been read. -/
structure Durable (apart : α → Prop) : Prop where
  survives : ∀ x, apart x → Survives x
  decoded : ∀ v x, Resource.read v = .ok x → apart x

theorem resources_survive :
    Durable (fun r : InstallRequest => r.metadata.Apart) ∧ Durable Job.Apart ∧
    Durable (fun p : Pod => p.metadata.Apart) ∧ Durable (fun r : ClusterRole => r.metadata.Apart) ∧
    (∀ kind namespaceName name package,
      (InstallRequest.ofPackage kind namespaceName name package).metadata.Apart) ∧
    (∀ job name, (Pod.ofJob job name).metadata.Apart) ∧
    (∀ request executor, (UnpackJob.ofRequest request executor).Apart) ∧
    ∀ (p : Persona) request rolePrefix, (p.role request rolePrefix).metadata.Apart := by
  have requests : Durable fun r : InstallRequest => r.metadata.Apart :=
    ⟨fun _ apart => (InstallRequest.faithful apart).survives,
      fun _ _ => InstallRequest.apart_of_read⟩
  have jobs : Durable Job.Apart :=
    ⟨fun _ apart => (Job.faithful apart).survives, fun _ _ => Job.apart_of_read⟩
  have pods : Durable fun p : Pod => p.metadata.Apart :=
    ⟨fun _ apart => (Pod.faithful apart).survives, fun _ _ => Pod.apart_of_read⟩
  have roles : Durable fun r : ClusterRole => r.metadata.Apart :=
    ⟨fun _ apart => (ClusterRole.faithful apart).survives, fun _ _ => ClusterRole.apart_of_read⟩
  have job : ∀ request executor, (UnpackJob.ofRequest request executor).Apart :=
    fun _ _ => ⟨.of_rest rfl, .of_rest rfl⟩
  exact ⟨requests, jobs, pods, roles, fun _ _ _ _ => .of_rest rfl, fun _ _ => .of_rest rfl, job,
    fun p request rolePrefix => .of_rest (p.role_rest request rolePrefix)⟩

def sampleJob : Job :=
  UnpackJob.ofRequest (.ofPackage .stackInstall "team-a" "redis" "registry.local/redis:1.0")
    "registry.local/executor:1.0"

theorem sampleDate_valid : Calendar.Date.Valid ⟨2024, 5, 1⟩ := by decide

theorem sampleClock_valid : Calendar.Clock.Valid ⟨9, 30, 0, 0⟩ := by decide

def sampleIdentity : Identity :=
  ⟨"uid-1", ⟨⟨2024, 5, 1⟩, ⟨9, 30, 0, 0⟩, sampleDate_valid, sampleClock_valid⟩⟩

def sampleCluster (s : Store) : Cluster := .calm s .empty fun _ => sampleIdentity

theorem sampleCluster_calm (s : Store) : (sampleCluster s).Calm :=
  ⟨fun _ _ => rfl, fun _ _ => rfl⟩

theorem resources_survive_sample :
    let created := (sampleCluster .empty).run (createTyped sampleJob)
    created.1 = .ok (assigned sampleJob sampleIdentity) ∧
      ((sampleCluster created.2.store).run
        (findTyped Job Job.coordinates ⟨"team-a", "redis"⟩)).1 =
          .ok (assigned sampleJob sampleIdentity) := by
  obtain ⟨-, jobs, -, -, -, -, built, -⟩ := resources_survive
  have survives := jobs.survives sampleJob (built _ _)
  obtain ⟨answer, -, found⟩ := survives.created (sampleCluster .empty) (sampleCluster_calm _)
    (by decide) List.not_mem_nil
  exact ⟨answer, found _ (sampleCluster_calm _) rfl⟩

end Resource

end PackageInstall
