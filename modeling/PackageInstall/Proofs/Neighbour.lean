import PackageInstall.Proofs.StandIn

namespace PackageInstall

namespace Store

theorem Kept.find?_eq_some_iff {s : Store} (kept : s.Kept) {c : Coordinates} {k : ObjectKey}
    {o : Object} :
    s.find? c k = some o ↔ ∃ e ∈ s.entries, e.place = (c, k) ∧ e.object = o := by
  constructor
  · intro found
    obtain ⟨e, first, same⟩ := Option.map_eq_some_iff.1 found
    have found : e.isAt c k = true := by simpa using List.find?_some first
    exact ⟨e, List.mem_of_find?_eq_some first, Entry.isAt_iff.1 found, same⟩
  · rintro ⟨e, member, here, rfl⟩
    have there : (c, k) ∈ s.places := List.mem_map.2 ⟨e, member, here⟩
    obtain ⟨o, found⟩ := Option.isSome_iff_exists.1 (find?_isSome_iff.2 there)
    obtain ⟨e', first, same⟩ := Option.map_eq_some_iff.1 found
    have found' : e'.isAt c k = true := by simpa using List.find?_some first
    have here' : e'.place = (c, k) := Entry.isAt_iff.1 found'
    obtain rfl :=
      kept.eq_of_place (List.mem_of_find?_eq_some first) member (here'.trans here.symm)
    rw [found, same]

end Store

namespace Sweep

open Cluster

theorem find?_cleared {s : Store} (kept : s.Kept) (request : InstallRequest)
    (types : List Coordinates) {t : Coordinates} {k : ObjectKey} {o : Object}
    (found : s.find? t k = some o) :
    (cleared request types s).find? t k =
      if t ∈ types ∧ (Provenance.ofParent request).Borne o.metadata.labels then none
      else some o := by
  obtain ⟨e, stored, here, rfl⟩ := kept.find?_eq_some_iff.1 found
  obtain ⟨rfl, rfl⟩ := Prod.mk.inj here
  have kept' : (cleared request types s).Kept := kept.sublist List.filter_sublist
  have left : ∀ e', e' ∈ (cleared request types s).entries ↔
      e' ∈ s.entries ∧ ¬Marked request types e' := by simp [cleared]
  split
  · rename_i marked
    rw [Store.find?_eq_none_iff]
    intro there
    obtain ⟨e', member, same⟩ := List.mem_map.1 there
    obtain ⟨stored', unmarked⟩ := (left e').1 member
    obtain rfl := kept.eq_of_place stored' stored same
    exact unmarked marked
  · rename_i unmarked
    exact kept'.find?_eq_some_iff.2 ⟨e, (left e).2 ⟨stored, unmarked⟩, rfl, rfl⟩

theorem find?_calm_sweep {c : Cluster} (calm : c.Calm) (kept : c.store.Kept)
    (request : InstallRequest) (types : List Coordinates) {t : Coordinates} {k : ObjectKey}
    {o : Object} (found : c.store.find? t k = some o) :
    (c.run (sweep request types)).2.store.find? t k =
      if t ∈ types ∧ (Provenance.ofParent request).Borne o.metadata.labels then none
      else some o := by
  rw [(calm_sweep calm kept request types).2]
  exact find?_cleared kept request types found

end Sweep

namespace Completion

open Cluster

variable {rolePrefix : String} {request : InstallRequest}

theorem roles_mem_walk {items : List Documents.Item}
    (atEnd : (walk rolePrefix request items).halt = .atEnd) {document : Object}
    (member : .ok (some document) ∈ items) (schema : document.IsSchemaDefinition) :
    ∀ o ∈ Persona.roleObjects request rolePrefix, o ∈ (walk rolePrefix request items).objects := by
  induction items with
  | nil => cases member
  | cons item rest ih =>
    rcases item with e | _ | document'
    · cases atEnd
    · rcases List.mem_cons.1 member with here | later
      · cases here
      · exact ih atEnd later
    · rw [walk] at atEnd ⊢
      by_cases nameless : (materialized request document').name = ""
      · simp only [if_pos nameless] at atEnd
        cases atEnd
      · simp only [if_neg nameless] at atEnd ⊢
        intro o role
        rcases List.mem_cons.1 member with here | later
        · obtain rfl := Option.some_inj.1 (Except.ok.inj here)
          rw [rolesBefore_of_definition schema]
          exact List.mem_append_left _ role
        · exact List.mem_append_right _ (List.mem_cons_of_mem _ (ih atEnd later o role))

theorem halt_of_outcome_ok {w : Walk} {request updated : InstallRequest} {job : Job} {s : Store}
    (done : w.outcome request job s = .ok updated) : w.halt = .atEnd := by
  unfold Walk.outcome at done
  cases halt : w.halt with
  | atEnd => rfl
  | atFault e =>
    rw [halt] at done
    cases done
  | atNameless o =>
    rw [halt] at done
    cases done

/-- A completion that succeeds, where no call fails, on behalf of a request in a namespace whose
package defines a type. -/
structure Installs (c : Cluster) (rolePrefix : String) (request : InstallRequest) (job : Job) :
    Prop where
  calm : c.Calm
  namespaced : request.kind = .stackInstall
  succeeds : ∃ updated, (c.run (complete rolePrefix request job)).1 = .ok updated
  defines : ∃ pod output document, podsOf c.store job = [pod] ∧
    outputIn c.logs ⟨job.metadata.namespaceName, pod.name⟩ = .ok output ∧
    .ok (some document) ∈ Documents.decode output ∧ document.IsSchemaDefinition

namespace Installs

variable {c : Cluster} {job : Job}

theorem grown (installs : Installs c rolePrefix request job) :
    c.store.entries <+: (c.run (complete rolePrefix request job)).2.store.entries := by
  obtain ⟨pod, output, -, one, written, -⟩ := installs.defines
  rw [(calm_complete installs.calm rolePrefix request one written).1]
  exact Store.entries_prefix_absorbAll _ _

theorem role_taken (installs : Installs c rolePrefix request job) (p : Persona) :
    p.place request rolePrefix ∈ (c.run (complete rolePrefix request job)).2.store.places := by
  obtain ⟨updated, done⟩ := installs.succeeds
  obtain ⟨pod, output, document, one, written, member, schema⟩ := installs.defines
  obtain ⟨store, outcome⟩ := calm_complete installs.calm rolePrefix request one written
  rw [done] at outcome
  have role : Resource.object (p.role request rolePrefix) ∈
      Persona.roleObjects request rolePrefix :=
    List.mem_of_find?_eq_some (Persona.find?_roleObjects installs.namespaced)
  have walked := roles_mem_walk (halt_of_outcome_ok outcome.symm) member schema _ role
  rw [store, ← Persona.place_object]
  exact Store.place_mem_absorbAll walked (name_ne_of_mem_walk walked)

end Installs

theorem provenance_of_free (c : Cluster) (rolePrefix : String) (request : InstallRequest)
    (job : Job) {e : Store.Entry}
    (there : e ∈ (c.run (complete rolePrefix request job)).2.store.entries)
    (free : e.place ∉ c.store.places) :
    (Provenance.ofParent request).Borne e.object.metadata.labels := by
  have absent : e ∉ c.store.entries := fun old => free (List.mem_map_of_mem old)
  obtain ⟨key, output, -, origin⟩ := origin_of_new there absent
  exact origin.provenance

theorem role_of_neighbours {c d : Cluster} {first second : InstallRequest} {job job' : Job}
    (installs : Installs c rolePrefix first job) (installs' : Installs d rolePrefix second job')
    (between : (c.run (complete rolePrefix first job)).2.store.entries <+: d.store.entries)
    (p : Persona) :
    ∃ e ∈ (d.run (complete rolePrefix second job')).2.store.entries,
      e.place = p.place first rolePrefix ∧
      (p.place first rolePrefix ∉ c.store.places →
        (Provenance.ofParent first).Borne e.object.metadata.labels) := by
  obtain ⟨e, there, here⟩ := List.mem_map.1 (installs.role_taken p)
  refine ⟨e, (between.trans installs'.grown).subset there, here, fun free => ?_⟩
  rw [← here] at free
  exact provenance_of_free c rolePrefix first job there free

end Completion

namespace Sweep

open Cluster Completion

/-- After two requests in a namespace have been completed, the role of a persona stands there, and a
sweep for a request leaves it unless it bears the provenance of that request. Where its place was
free before, it goes with the request that was completed first and stays with the other. -/
theorem role_after_neighbours {c d f : Cluster} (reachable : d.store.Reachable)
    {rolePrefix : String} {first second : InstallRequest} {job job' : Job}
    (neighbours : first.namespaceName = second.namespaceName) (apart : first.uid ≠ second.uid)
    (installs : Installs c rolePrefix first job) (installs' : Installs d rolePrefix second job')
    (between : (c.run (complete rolePrefix first job)).2.store.entries <+: d.store.entries)
    (calm : f.Calm) (continued : f.store = (d.run (complete rolePrefix second job')).2.store)
    (p : Persona) :
    let role? (s : Store) :=
      s.find? ClusterRole.coordinates ⟨"", p.roleName rolePrefix second.namespaceName⟩
    let swept (r : InstallRequest) := (f.run (sweep r clusterScoped)).2.store
    ∃ role, role? f.store = some role ∧
      (∀ r, role? (swept r) =
        if (Provenance.ofParent r).Borne role.metadata.labels then none else some role) ∧
      (role? c.store = none → role? (swept first) = none ∧ role? (swept second) = some role) := by
  intro role? swept
  have kept : f.store.Kept := by
    rw [continued]
    exact (reachable_complete reachable rolePrefix second job').kept
  obtain ⟨e, there, here, provenance⟩ := role_of_neighbours installs installs' between p
  rw [← continued] at there
  have place : e.place = (ClusterRole.coordinates,
      ⟨"", p.roleName rolePrefix second.namespaceName⟩) := by
    rw [here, Persona.place, neighbours]
  have found : role? f.store = some e.object :=
    kept.find?_eq_some_iff.2 ⟨e, there, place, rfl⟩
  have leaves : ∀ r, role? (swept r) =
      if (Provenance.ofParent r).Borne e.object.metadata.labels then none
      else some e.object := by
    intro r
    have listed : ClusterRole.coordinates ∈ clusterScoped := by decide
    have left := find?_calm_sweep calm kept r clusterScoped found
    simpa only [listed, true_and] using left
  refine ⟨e.object, found, leaves, fun absent => ?_⟩
  have free : p.place first rolePrefix ∉ c.store.places := by
    rw [Persona.place, neighbours]
    exact Store.find?_eq_none_iff.1 absent
  have borne := provenance free
  have other : ¬(Provenance.ofParent second).Borne e.object.metadata.labels := by
    intro borne'
    exact apart (Provenance.ofParent_eq_iff.1 (borne.eq borne')).2.2.2
  rw [leaves, leaves, if_pos borne, if_neg other]
  exact ⟨rfl, rfl⟩

end Sweep

namespace Completion

open Cluster Sweep

theorem installs_of_walk {c : Cluster} (calm : c.Calm) {rolePrefix : String}
    {request : InstallRequest} (namespaced : request.kind = .stackInstall) {job : Job}
    {pod : Object} (one : podsOf c.store job = [pod]) {output : List UInt8}
    (written : outputIn c.logs ⟨job.metadata.namespaceName, pod.name⟩ = .ok output)
    (atEnd : (walk rolePrefix request (Documents.decode output)).halt = .atEnd)
    (record : ∃ o ∈ (walk rolePrefix request (Documents.decode output)).objects, o.IsStackRecord)
    (defined : ∃ document ∈ documentsOf (Documents.decode output), document.IsSchemaDefinition) :
    Installs c rolePrefix request job where
  calm := calm
  namespaced := namespaced
  succeeds := by
    obtain ⟨store, outcome⟩ := calm_complete calm rolePrefix request one written
    rw [outcome, outcome_ok_iff]
    · exact ⟨atEnd, record⟩
    · intro o member
      rw [store]
      exact Store.place_mem_absorbAll member (name_ne_of_mem_walk member)
  defines := by
    obtain ⟨document, member, schema⟩ := defined
    exact ⟨pod, output, document, one, written, mem_documentsOf.1 member, schema⟩

def definitionOutput : String := plainDefinition ++ (definitionName ++ sampleOutput)

theorem definition_runs :
    let items := Documents.decode (Utf8.encode definitionOutput.toList)
    (∃ document ∈ documentsOf items, document.IsSchemaDefinition) ∧
      (∀ r ∈ [sampleRequest, sampleOther], (walk "x" r items).halt = .atEnd ∧
        ∃ o ∈ (walk "x" r items).objects, o.IsStackRecord) ∧
      podsOf (sampleStore.absorbAll sampleIdentities (walk "x" sampleRequest items).objects)
        sampleJob = podsOf sampleStore sampleJob := by
  rw [definitionOutput, String.toList_append, String.toList_append]
  decide +kernel

theorem sample_installs :
    Installs (sampleCluster definitionOutput) "x" sampleRequest sampleJob := by
  obtain ⟨defined, walks, -⟩ := definition_runs
  obtain ⟨atEnd, record⟩ := walks sampleRequest List.mem_cons_self
  exact installs_of_walk (calm_calm _ _ _) rfl sample_pods rfl atEnd record defined

theorem sampleNext_store (c : Cluster) :
    (sampleNext c).store = (c.run (complete "x" sampleRequest sampleJob)).2.store := rfl

theorem sampleNext_grown (c : Cluster) :
    (c.run (complete "x" sampleRequest sampleJob)).2.store.entries <+:
      (sampleNext c).store.entries := by
  have same := congrArg Store.entries (sampleNext_store c)
  exact ⟨[], by rw [List.append_nil, same]⟩

theorem sampleNext_installs :
    Installs (sampleNext (sampleCluster definitionOutput)) "x" sampleOther sampleJob := by
  obtain ⟨defined, walks, pods⟩ := definition_runs
  obtain ⟨atEnd, record⟩ := walks sampleOther (by simp)
  have one : podsOf (sampleNext (sampleCluster definitionOutput)).store sampleJob =
      [Store.identified samplePod (sampleIdentities 0)] := by
    rw [sampleNext_store, (sample_completes _ _ _).1, pods, sample_pods]
  exact installs_of_walk (sampleNext_calm _) rfl one rfl atEnd record defined

def sampleBoth (c : Cluster) : Cluster :=
  sampleAround ((sampleNext c).run (complete "x" sampleOther sampleJob)).2.store

theorem sampleBoth_calm (c : Cluster) : (sampleBoth c).Calm := sampleAround_calm _

theorem sampleBoth_store (c : Cluster) :
    (sampleBoth c).store = ((sampleNext c).run (complete "x" sampleOther sampleJob)).2.store :=
  rfl

theorem sample_neighbours : sampleRequest.namespaceName = sampleOther.namespaceName := by
  decide

theorem sample_apart : sampleRequest.uid ≠ sampleOther.uid := by decide

theorem sampleNext_reachable {c : Cluster} (store : c.store = sampleStore) :
    (sampleNext c).store.Reachable := by
  have reachable : c.store.Reachable := by
    rw [store]
    exact sampleStore_reachable
  exact reachable_complete reachable "x" sampleRequest sampleJob

theorem role_after_neighbours_sample :
    let role? (s : Store) := s.find? ClusterRole.coordinates
      ⟨"", Persona.admin.roleName "x" sampleOther.namespaceName⟩
    let swept (r : InstallRequest) :=
      ((sampleBoth (sampleCluster definitionOutput)).run (sweep r clusterScoped)).2.store
    role? (swept sampleRequest) = none ∧ ∃ role, role? (swept sampleOther) = some role := by
  have installs := sample_installs
  have installs' := sampleNext_installs
  have store := sampleCluster_store definitionOutput
  generalize sampleCluster definitionOutput = c at *
  have free : c.store.find? ClusterRole.coordinates
      ⟨"", Persona.admin.roleName "x" sampleOther.namespaceName⟩ = none := by
    rw [store, ← sample_neighbours]
    exact Store.find?_eq_none_iff.2 (sample_places_free .admin)
  obtain ⟨role, -, -, leaves⟩ := role_after_neighbours (sampleNext_reachable store)
    sample_neighbours sample_apart installs installs' (sampleNext_grown c) (sampleBoth_calm c)
    (sampleBoth_store c) .admin
  obtain ⟨gone, stays⟩ := leaves free
  exact ⟨gone, role, stays⟩

/-- Two requests in a namespace, and the sweep of one, after which the roles of both are gone. -/
theorem roles_gone_with_neighbour :
    let c := sampleCluster definitionOutput
    let swept := ((sampleBoth c).run (sweep sampleRequest clusterScoped)).2.store
    Installs c "x" sampleRequest sampleJob ∧ Installs (sampleNext c) "x" sampleOther sampleJob ∧
      sampleRequest.namespaceName = sampleOther.namespaceName ∧
      sampleRequest.uid ≠ sampleOther.uid ∧
      ∀ p : Persona, p.place sampleRequest "x" ∉ swept.places := by
  have installs := sample_installs
  have installs' := sampleNext_installs
  have store := sampleCluster_store definitionOutput
  generalize sampleCluster definitionOutput = c at *
  refine ⟨installs, installs', sample_neighbours, sample_apart, fun p there => ?_⟩
  have kept : (sampleBoth c).store.Kept := by
    rw [sampleBoth_store]
    exact (reachable_complete (sampleNext_reachable store) "x" sampleOther sampleJob).kept
  obtain ⟨e, left, place⟩ := List.mem_map.1 there
  obtain ⟨stored, unmarked⟩ :=
    (mem_calm_sweep (sampleBoth_calm c) kept sampleRequest clusterScoped).1 left
  obtain ⟨e', stored', place', provenance⟩ :=
    role_of_neighbours installs installs' (sampleNext_grown c) p
  have free : p.place sampleRequest "x" ∉ c.store.places := by
    rw [store]
    exact sample_places_free p
  rw [← sampleBoth_store] at stored'
  obtain rfl : e = e' := kept.eq_of_place stored stored' (place.trans place'.symm)
  have role : e.coordinates = ClusterRole.coordinates := congrArg Prod.fst place
  have listed : e.coordinates ∈ clusterScoped := by
    rw [role]
    decide
  exact unmarked ⟨listed, provenance free⟩

end Completion

end PackageInstall
