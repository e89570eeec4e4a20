import PackageInstall.Proofs.Neighbour
import PackageInstall.Proofs.Repetition
import PackageInstall.Proofs.Succession
import PackageInstall.Proofs.TypedStore

namespace PackageInstall

def Object.IsPodOf (job : Job) (o : Object) : Prop :=
  o.coordinates = Pod.coordinates ∧ o.namespaceName = job.metadata.namespaceName ∧
    o.metadata.labels.get? Pod.jobLabel = some job.metadata.name

instance (job : Job) (o : Object) : Decidable (o.IsPodOf job) :=
  inferInstanceAs (Decidable (_ ∧ _ ∧ _))

namespace Store

def podsFor (s : Store) (job : Job) : List Object := s.objects.filter fun o => decide (o.IsPodOf job)

theorem Kept.nodup_podsFor {s : Store} (kept : s.Kept) (job : Job) : (s.podsFor job).Nodup := by
  have distinct := kept.distinct
  rw [← kept.places_objects] at distinct
  exact (List.Nodup.of_map _ distinct).filter _

theorem Kept.eq_of_isPodOf {s : Store} (kept : s.Kept) {job : Job} {k : ObjectKey} {o o' : Object}
    (found : s.find? Pod.coordinates k = some o) (isPod : o.IsPodOf job)
    (stored : o' ∈ s.objects) (isPod' : o'.IsPodOf job) (named : o'.name = o.name) : o' = o := by
  obtain ⟨e, there, rfl⟩ := List.mem_map.1 stored
  have place : o.place = (Pod.coordinates, k) := kept.place_of_find? found
  have key : ObjectKey.ofObject e.object = ObjectKey.ofObject o :=
    congrArg₂ ObjectKey.mk (isPod'.2.1.trans isPod.2.1.symm) named
  have here : e.place = (Pod.coordinates, k) := by
    rw [kept.keyed e there, ← place]
    exact Prod.ext (isPod'.1.trans isPod.1.symm) key
  have found' := kept.find?_eq_some_iff.2 ⟨e, there, here, rfl⟩
  rw [found] at found'
  exact (Option.some_inj.1 found').symm

theorem Kept.podsFor_eq {s : Store} (kept : s.Kept) {job : Job} {k : ObjectKey} {o : Object}
    (found : s.find? Pod.coordinates k = some o) (isPod : o.IsPodOf job)
    (alone : ∀ o' ∈ s.objects, o'.IsPodOf job → o'.name = o.name) : s.podsFor job = [o] := by
  have same : ∀ o' ∈ s.podsFor job, o' = o := by
    intro o' member
    obtain ⟨stored, decided⟩ := List.mem_filter.1 member
    have isPod' := of_decide_eq_true decided
    exact kept.eq_of_isPodOf found isPod stored isPod' (alone o' stored isPod')
  obtain ⟨e, there, -, rfl⟩ := kept.find?_eq_some_iff.1 found
  have member : e.object ∈ s.podsFor job :=
    List.mem_filter.2 ⟨List.mem_map_of_mem there, decide_eq_true isPod⟩
  have distinct := kept.nodup_podsFor job
  have copies := List.eq_replicate_of_mem same
  rw [copies, List.nodup_replicate] at distinct
  have one : (s.podsFor job).length = 1 := by
    have some := List.length_pos_of_mem member
    omega
  rw [copies, one]
  rfl

end Store

namespace Pod

theorem isPodOf_ofJob (job : Job) (name : String) (i : Identity) :
    (Store.identified (Resource.object (ofJob job name)) i).IsPodOf job := by
  refine ⟨?_, rfl, ?_⟩
  · show Coordinates.ofApiVersion Pod.coordinates.apiVersion Pod.coordinates.kind = Pod.coordinates
    decide
  · show ((Metadata.ofName job.metadata.namespaceName name).labels.insert jobLabel
      job.metadata.name).get? jobLabel = _
    rw [KeyMap.get?_insert, if_pos rfl]

end Pod

namespace Completion

open Cluster

theorem podsOf_eq {s : Store} (kept : s.Kept) (job : Job) : podsOf s job = s.podsFor job := by
  have selected : (podSelector job).matchLabels.entries = [(Pod.jobLabel, job.metadata.name)] := rfl
  rw [podsOf, kept.list_eq]
  refine List.filter_congr fun o _ => ?_
  rw [Bool.eq_iff_iff, decide_eq_true_iff, decide_eq_true_iff]
  simp [Store.Wanted, Object.IsPodOf, selected]

def GoesOnWith (c : Cluster) (rolePrefix : String) (request : InstallRequest) (job : Job)
    (pod : String) : Prop :=
  (c.run (complete rolePrefix request job)).2.journal[c.journal.length + 1]? =
    some (.openLog ⟨job.metadata.namespaceName, pod⟩)

theorem goesOnWith_iff (c : Cluster) (rolePrefix : String) (request : InstallRequest) (job : Job)
    (pod : String) : GoesOnWith c rolePrefix request job pod ↔ podReply c job = .ok pod := by
  obtain ⟨-, journal, -⟩ := run_complete c rolePrefix request job
  unfold GoesOnWith
  rw [journal, List.getElem?_append_right (Nat.le_add_right _ _), Nat.add_sub_cancel_left]
  have opened : ∀ name, (readingCalls c job ⟨job.metadata.namespaceName, name⟩)[1]? =
      some (.openLog ⟨job.metadata.namespaceName, name⟩) := by
    intro name
    unfold readingCalls outputCalls
    split <;> rfl
  cases found : podReply c job with
  | error e => simp [course, found]
  | ok name =>
    let key : ObjectKey := ⟨job.metadata.namespaceName, name⟩
    have second : (course c rolePrefix request job).calls[1]? = some (.openLog key) := by
      simp only [course, found]
      cases outputReply (calling c [podCall job]) key with
      | error e => exact opened name
      | ok output =>
        rw [List.getElem?_append_left (List.getElem?_eq_some_iff.1 (opened name)).1]
        exact opened name
    rw [second]
    simp [key]

structure Discovers (c : Cluster) (rolePrefix : String) (request : InstallRequest) (job : Job) :
    Prop where
  goesOn : ∀ pod, GoesOnWith c rolePrefix request job pod ↔
    ∃ o, c.store.podsFor job = [o] ∧ o.name = pod
  otherwise : (c.store.podsFor job).length ≠ 1 →
    (c.run (complete rolePrefix request job)).1 =
      .error (.podCount job.metadata.name (c.store.podsFor job).length) ∧
    (c.run (complete rolePrefix request job)).2.store = c.store

theorem discovers {c : Cluster} (kept : c.store.Kept) {job : Job}
    (listed : c.failure? (podCall job) = none) (rolePrefix : String) (request : InstallRequest) :
    Discovers c rolePrefix request job where
  goesOn pod := by
    rw [goesOnWith_iff, podReply_of_listed listed, podsOf_eq kept]
    rcases c.store.podsFor job with _ | ⟨o, _ | ⟨other, rest⟩⟩ <;> simp
  otherwise many := by
    rw [← podsOf_eq kept] at many ⊢
    exact (complete_podCount rolePrefix request listed many).symm

def Reads (c : Cluster) (rolePrefix : String) (request : InstallRequest) (job : Job)
    (pod : String) : Prop :=
  let result := c.run (complete rolePrefix request job)
  match outputIn c.logs ⟨job.metadata.namespaceName, pod⟩ with
  | .error e => result.1 = .error e ∧ result.2.store = c.store
  | .ok output =>
    let walked := walk rolePrefix request (Documents.decode output)
    result.1 = walked.outcome request job result.2.store ∧
      result.2.store = c.store.absorbAll c.identities walked.objects

theorem reads_of_only {c : Cluster} (calm : c.Calm) (kept : c.store.Kept) (rolePrefix : String)
    (request : InstallRequest) {job : Job} {o : Object} (only : c.store.podsFor job = [o]) :
    GoesOnWith c rolePrefix request job o.name ∧ Reads c rolePrefix request job o.name := by
  refine ⟨((discovers kept (calm.failure?_eq _) rolePrefix request).goesOn _).2 ⟨o, only, rfl⟩, ?_⟩
  rw [← podsOf_eq kept] at only
  unfold Reads
  cases written : outputIn c.logs ⟨job.metadata.namespaceName, o.name⟩ with
  | error e => exact (calm_complete_unread calm rolePrefix request only written).symm
  | ok output => exact (calm_complete calm rolePrefix request only written).symm

theorem find?_createdPod {c : Cluster} (calm : c.Calm) (job : Job) {name : String}
    (named : name ≠ "")
    (free : (Pod.coordinates, ⟨job.metadata.namespaceName, name⟩) ∉ c.store.places) :
    (∃ pod, (c.run (createTyped (Pod.ofJob job name))).1 = .ok pod) ∧
      ∃ i, (c.run (createTyped (Pod.ofJob job name))).2.store.find? Pod.coordinates
        ⟨job.metadata.namespaceName, name⟩ =
          some (Store.identified (Resource.object (Pod.ofJob job name)) i) := by
  have faithful : Resource.Faithful (Pod.ofJob job name) := Pod.faithful (.of_rest rfl)
  have place : (Resource.object (Pod.ofJob job name)).place =
      (Pod.coordinates, ⟨job.metadata.namespaceName, name⟩) := faithful.place
  have isNamed : (Resource.object (Pod.ofJob job name)).name ≠ "" := named
  have isFree : (Resource.object (Pod.ofJob job name)).place ∉ c.store.places := place ▸ free
  obtain ⟨answer, store⟩ := calm.run_createTyped faithful
  rw [answer, store, Store.create_of_free _ isNamed isFree, Store.absorb_of_free isNamed isFree]
  exact ⟨⟨_, rfl⟩, _, Store.find?_of_joining free ((Store.entryOf_place _ _ _).trans place) _⟩

/-- A completion goes on with the only pod of its job, or tells how many there are. The pod that the
job of a request starts is created where its place is free, and as long as it is there and no other
pod is the job's, its output is the one that is read, whatever else was created and deleted. -/
theorem finds_only_pod :
    (∀ (c : Cluster) (rolePrefix : String) (request : InstallRequest) (job : Job),
      c.store.Reachable → c.failure? (podCall job) = none →
        Discovers c rolePrefix request job) ∧
    ∀ (c d : Cluster) (rolePrefix executor name : String) (request : InstallRequest)
      (changes : List Change),
      let job := UnpackJob.ofRequest request executor
      let key : ObjectKey := ⟨request.namespaceName, name⟩
      let created := c.run (createTyped (Pod.ofJob job name))
      c.Calm → c.store.Reachable → name ≠ "" → (Pod.coordinates, key) ∉ c.store.places →
        (∃ pod, created.1 = .ok pod) ∧
        (d.Calm → d.store = (Change.run Store.change created.2.store changes).2 →
          d.store.find? Pod.coordinates key = created.2.store.find? Pod.coordinates key →
          (∀ o ∈ d.store.objects, o.IsPodOf job → o.name = name) →
          GoesOnWith d rolePrefix request job name ∧ Reads d rolePrefix request job name) := by
  refine ⟨fun c rolePrefix request job reachable listed =>
    discovers reachable.kept listed rolePrefix request, ?_⟩
  intro c d rolePrefix executor name request changes job key created calm reachable named free
  obtain ⟨done, i, found⟩ := find?_createdPod calm job named free
  refine ⟨done, fun calm' continued still alone => ?_⟩
  have kept : d.store.Kept := by
    have reachable' : created.2.store.Reachable := reachable_createTyped reachable _
    rw [continued]
    exact (reachable'.run changes).kept
  have there := still.trans found
  have only := kept.podsFor_eq there (Pod.isPodOf_ofJob job name i) alone
  exact reads_of_only calm' kept rolePrefix request only

def startedJob : Job := UnpackJob.ofRequest sampleRequest "executor"

def sampleStarted : Cluster :=
  ((sampleCluster sampleOutput).run (createTyped (Pod.ofJob startedJob "w"))).2

/-- A pod of a job of the same name in another namespace. -/
def sampleStranger : Object :=
  .ofCoordinates Pod.coordinates
    { (Pod.ofJob startedJob "w").metadata with namespaceName := "b" }

def sampleLater : Cluster :=
  .calm (Change.run Store.change sampleStarted.store
    [.create sampleStranger (sampleIdentities 7), .delete Pod.coordinates ⟨"a", "p"⟩]).2
    (LogBook.empty.insert ⟨"a", "w"⟩ (Utf8.encode sampleOutput.toList)) sampleIdentities

theorem finds_only_pod_sample :
    Discovers sampleLater "x" sampleRequest startedJob ∧
      GoesOnWith sampleLater "x" sampleRequest startedJob "w" ∧
      Reads sampleLater "x" sampleRequest startedJob "w" := by
  obtain ⟨found, started⟩ := finds_only_pod
  have named : "w" ≠ "" := by decide
  have free : (Pod.coordinates, (⟨"a", "w"⟩ : ObjectKey)) ∉ (sampleCluster sampleOutput).store.places
    := by decide +kernel
  have still : sampleLater.store.find? Pod.coordinates ⟨"a", "w"⟩ =
      sampleStarted.store.find? Pod.coordinates ⟨"a", "w"⟩ := by decide +kernel
  have alone : ∀ o ∈ sampleLater.store.objects, o.IsPodOf startedJob → o.name = "w" := by
    decide +kernel
  have start : (sampleCluster sampleOutput).store.Reachable := sampleStore_reachable
  obtain ⟨-, later⟩ := started (sampleCluster sampleOutput) sampleLater "x" "executor" "w"
    sampleRequest _ (calm_calm _ _ _) start named free
  refine ⟨found _ _ _ _ ?_ rfl, later (calm_calm _ _ _) rfl still alone⟩
  have between : sampleStarted.store.Reachable := reachable_createTyped start _
  exact between.run _

end Completion

end PackageInstall
