import PackageInstall.Proofs.Neighbour

namespace PackageInstall

namespace Completion

open Cluster

variable {rolePrefix : String} {request : InstallRequest}

theorem provenance_of_mem_walk {items : List Documents.Item} {o : Object}
    (member : o ∈ (walk rolePrefix request items).objects) :
    (Provenance.ofParent request).Borne o.metadata.labels := by
  have role : ∀ o' ∈ Persona.roleObjects request rolePrefix,
      (Provenance.ofParent request).Borne o'.metadata.labels := by
    intro o' there
    rw [Persona.roleObjects_eq] at there
    obtain ⟨r, known, rfl⟩ := List.mem_map.1 there
    obtain ⟨p, rfl⟩ := Persona.exists_of_mem_roles known
    exact p.provenance_role request rolePrefix
  have before : ∀ document, ∀ o' ∈ rolesBefore rolePrefix request document,
      (Provenance.ofParent request).Borne o'.metadata.labels := by
    intro document o' there
    unfold rolesBefore at there
    split at there
    · exact role o' there
    · cases there
  induction items with
  | nil => cases member
  | cons item rest ih =>
    rcases item with e | _ | document
    · cases member
    · exact ih member
    · rw [walk] at member
      by_cases nameless : (materialized request document).name = ""
      · simp only [if_pos nameless] at member
        exact before _ o member
      · simp only [if_neg nameless] at member
        rcases List.mem_append.1 member with early | late
        · exact before _ o early
        · rcases List.mem_cons.1 late with rfl | later
          · exact provenance_materialized request document
          · exact ih later

theorem resolved_congr {job : Job} {s t : Store} {last : Option Object}
    (same : ∀ o, last = some o →
      t.find? o.coordinates (.ofObject o) = s.find? o.coordinates (.ofObject o)) :
    resolved request job t last = resolved request job s last := by
  cases last with
  | none => rfl
  | some o => simp only [resolved, same o rfl]

theorem notMem_clusterScoped {o : Object} (record : o.IsStackRecord) :
    o.coordinates ∉ Sweep.clusterScoped := by
  have groups : ∀ t ∈ Sweep.clusterScoped, t.group ≠ Coordinates.stackGroup := by decide
  intro swept
  exact groups _ swept record.1

end Completion

namespace Sweep

open Cluster Completion Store

variable {request : InstallRequest}

/-- What is found at a place at first, after the sweep, and once more: the same all the time, or an
object that was swept and is there again with what the store assigns to it anew. -/
inductive Restored : Option Object → Option Object → Option Object → Prop where
  | spared (found : Option Object) : Restored found found found
  | anew (o : Object) (i : Identity) : Restored (some o) none (some (identified o i))

theorem restored_absorbAll {s : Store} (reachable : s.Reachable)
    (unborne : ∀ o ∈ s.objects, ¬(Provenance.ofParent request).Borne o.metadata.labels)
    {os : List Object} (named : ∀ o ∈ os, o.name ≠ "")
    (borne : ∀ o ∈ os, (Provenance.ofParent request).Borne o.metadata.labels)
    (identities identities' : Nat → Identity) (types : List Coordinates) (t : Coordinates)
    (k : ObjectKey) :
    let first := s.absorbAll identities os
    let swept := cleared request types first
    Restored (first.find? t k) (swept.find? t k) ((swept.absorbAll identities' os).find? t k) := by
  intro first swept
  have kept : first.Kept := (reachable.absorbAll identities os).kept
  have lasting : ∀ {o}, swept.find? t k = some o →
      (swept.absorbAll identities' os).find? t k = some o := fun found =>
    find?_of_grown (entries_prefix_absorbAll swept os) found
  have spared : ∀ {o}, first.find? t k = some o → swept.find? t k = some o →
      Restored (first.find? t k) (swept.find? t k)
        ((swept.absorbAll identities' os).find? t k) := by
    intro o before between
    rw [before, between, lasting between]
    exact .spared _
  -- an object that was there before the first run is none of the request's; a place that was free
  -- gets the first object for it, in either run
  cases held : s.find? t k with
  | some o =>
    have before : first.find? t k = some o := find?_of_grown (entries_prefix_absorbAll s os) held
    obtain ⟨e, stored, -, same⟩ := reachable.kept.find?_eq_some_iff.1 held
    have old : o ∈ s.objects := List.mem_map.2 ⟨e, stored, same⟩
    have between := find?_cleared kept request types before
    rw [if_neg fun marked => unborne o old marked.2] at between
    exact spared before between
  | none =>
    have comes := find?_absorbAll_of_free identities held named
    have again : swept.find? t k = none → _ := fun free =>
      find?_absorbAll_of_free identities' free named
    cases firstly : os.find? fun o => decide (o.place = (t, k)) with
    | none =>
      simp only [firstly] at comes again
      have between : swept.find? t k = none := by
        rw [find?_eq_none_iff] at comes ⊢
        exact fun there => comes ((List.filter_sublist.map Entry.place).subset there)
      rw [comes, between, again between]
      exact .spared none
    | some o =>
      simp only [firstly] at comes again
      obtain ⟨i, before⟩ := comes
      have between := find?_cleared kept request types before
      by_cases listed : t ∈ types
      · have labelled := borne o (List.mem_of_find?_eq_some firstly)
        rw [if_pos ⟨listed, labelled⟩] at between
        obtain ⟨i', anew⟩ := again between
        rw [before, between, anew]
        exact .anew (identified o i) i'
      · rw [if_neg fun marked => listed marked.1] at between
        exact spared before between

theorem podsOf_cleared (request : InstallRequest) (s : Store) (job : Job) :
    podsOf (cleared request clusterScoped s) job = podsOf s job := by
  have unlisted : Pod.coordinates ∉ clusterScoped := by decide
  unfold podsOf Store.list cleared
  simp only [List.filter_filter]
  refine congrArg _ (List.filter_congr fun e _ => ?_)
  by_cases pod : e.coordinates = Pod.coordinates
  · have unmarked : ¬Marked request clusterScoped e := fun marked => unlisted (pod ▸ marked.1)
    simp [unmarked]
  · simp [pod]

theorem prefix_cleared {s t : Store} (grown : s.entries <+: t.entries)
    (unborne : ∀ o ∈ s.objects, ¬(Provenance.ofParent request).Borne o.metadata.labels)
    (types : List Coordinates) : s.entries <+: (cleared request types t).entries := by
  obtain ⟨new, grown⟩ := grown
  have spared : s.entries.filter (fun e => !decide (Marked request types e)) = s.entries := by
    refine List.filter_eq_self.2 fun e stored => ?_
    have unmarked : ¬Marked request types e := fun marked =>
      unborne e.object (List.mem_map_of_mem stored) marked.2
    simp [unmarked]
  refine ⟨new.filter fun e => !decide (Marked request types e), ?_⟩
  rw [cleared, ← grown, List.filter_append, spared]

theorem podsOf_swept {s t : Store} (grown : s.entries <+: t.entries) {job : Job} {pod : Object}
    (pods : podsOf s job = [pod])
    (one : (podsOf (cleared request clusterScoped t) job).length = 1) :
    podsOf (cleared request clusterScoped t) job = [pod] := by
  rw [podsOf_cleared] at one ⊢
  have listed : podsOf t job = pod :: podsOf (t.since s) job :=
    (list_since grown _ _ _).trans (congrArg (· ++ podsOf (t.since s) job) pods)
  rw [listed, List.length_cons] at one
  have more : podsOf (t.since s) job = [] := List.length_eq_zero_iff.1 (Nat.succ.inj one)
  rw [listed, more]

theorem find?_record_swept {s t : Store} (kept : s.Kept) {o : Object} (record : o.IsStackRecord)
    (there : o.place ∈ s.places) (grown : (cleared request clusterScoped s).entries <+: t.entries) :
    t.find? o.coordinates (.ofObject o) = s.find? o.coordinates (.ofObject o) := by
  obtain ⟨stored, found⟩ := Option.isSome_iff_exists.1 (find?_isSome_iff.2 there)
  have spared := find?_cleared kept request clusterScoped found
  rw [if_neg fun marked => notMem_clusterScoped record marked.1] at spared
  have later : t.find? o.coordinates (.ofObject o) = some stored := find?_of_grown grown spared
  rw [later]
  exact found.symm

theorem pointed_swept {s t : Store} (kept : s.Kept) {stored : Object} (record : stored.IsStackRecord)
    (points : s.pointed (referenceTo stored) = .ok stored)
    (grown : (cleared request clusterScoped s).entries <+: t.entries) :
    t.pointed (referenceTo stored) = .ok stored := by
  have found : s.find? stored.coordinates (.ofObject stored) = some stored :=
    get_eq_ok_iff.1 points
  have there : stored.place ∈ s.places :=
    find?_isSome_iff.1 (Option.isSome_iff_exists.2 ⟨stored, found⟩)
  exact get_eq_ok_iff.2 ((find?_record_swept kept record there grown).trans found)

/-- After a sweep, a completion that has succeeded before brings back what was swept, and answers
the same, as long as its job still has one pod: the request with a reference to a stack record, which
leads to the same object after either completion. -/
theorem restored_by_completion {c s d : Cluster} (reachable : c.store.Reachable) (calm : c.Calm)
    (unborne : ∀ o ∈ c.store.objects, ¬(Provenance.ofParent request).Borne o.metadata.labels)
    {rolePrefix : String} {updated : InstallRequest} {job : Job}
    (done : (c.run (complete rolePrefix request job)).1 = .ok updated)
    (calm' : s.Calm) (continued : s.store = (c.run (complete rolePrefix request job)).2.store)
    (calm'' : d.Calm) (continued' : d.store = (s.run (sweep request clusterScoped)).2.store)
    (agrees : c.logs.Agrees d.logs) (one : (podsOf d.store job).length = 1) :
    let again := d.run (complete rolePrefix request job)
    (∃ deleted, (s.run (sweep request clusterScoped)).1 = .ok deleted) ∧ again.1 = .ok updated ∧
      (∃ reference stored,
        updated = { request with status := { request.status with stackRecord := some reference } } ∧
        stored.metadata.uid = reference.uid ∧ s.store.pointed reference = .ok stored ∧
        again.2.store.pointed reference = .ok stored) ∧
      c.store.entries <+: d.store.entries ∧ d.store.entries.Sublist s.store.entries ∧
      d.store.entries <+: again.2.store.entries ∧
      ∀ t k, Restored (s.store.find? t k) (d.store.find? t k) (again.2.store.find? t k) := by
  intro again
  obtain ⟨pod, output, pods, written⟩ := calm_complete_ok calm done
  obtain ⟨store, outcome⟩ := calm_complete calm rolePrefix request pods written
  let walked := walk rolePrefix request (Documents.decode output)
  have named : ∀ o ∈ walked.objects, o.name ≠ "" := fun o member => name_ne_of_mem_walk member
  have first : s.store = c.store.absorbAll c.identities walked.objects := continued.trans store
  have kept : s.store.Kept := by
    rw [first]
    exact (reachable.absorbAll _ _).kept
  have grown : c.store.entries <+: s.store.entries := by
    rw [first]
    exact entries_prefix_absorbAll _ _
  obtain ⟨counted, left⟩ := calm_sweep calm' kept request clusterScoped
  have swept : d.store = cleared request clusterScoped s.store := continued'.trans left
  have stays : podsOf d.store job = [pod] := by
    rw [swept] at one ⊢
    exact podsOf_swept grown pods one
  obtain ⟨last, answer⟩ := calm_complete calm'' rolePrefix request stays
    ((outputIn_of_agrees agrees _).trans written)
  have back : d.store.entries <+: again.2.store.entries := by
    rw [last]
    exact entries_prefix_absorbAll _ _
  have records : ∀ o, walked.records.getLast? = some o →
      again.2.store.find? o.coordinates (.ofObject o) =
        s.store.find? o.coordinates (.ofObject o) := by
    intro o isLast
    obtain ⟨member, record⟩ := List.mem_filter.1 (List.mem_of_getLast? isLast)
    have there : o.place ∈ s.store.places := by
      rw [first]
      exact place_mem_absorbAll member (named o member)
    exact find?_record_swept kept (of_decide_eq_true record) there (swept ▸ back)
  have same : again.1 = .ok updated := by
    rw [answer, ← done, outcome, ← continued]
    unfold Walk.outcome
    rw [halt_of_outcome_ok (outcome.symm.trans done)]
    exact resolved_congr records
  obtain ⟨_, _, document, stored, -, -, isLast, found, answered⟩ := complete_ok done
  have points : s.store.pointed (referenceTo stored) = .ok stored := by
    rw [continued]
    exact pointed_referenceTo (reachable_complete reachable rolePrefix request job) found
  have record : stored.IsStackRecord := by
    rw [← continued] at found
    rw [Object.IsStackRecord, (Prod.mk.inj (kept.place_of_find? found)).1]
    exact isStackRecord_of_lastRecord? isLast
  refine ⟨⟨_, counted⟩, same, ⟨referenceTo stored, stored, answered, rfl, points,
    pointed_swept kept record points (swept ▸ back)⟩, ?_, ?_, back, fun t k => ?_⟩
  · rw [swept]
    exact prefix_cleared grown unborne clusterScoped
  · rw [swept]
    exact List.filter_sublist
  · rw [last, swept, first]
    exact restored_absorbAll reachable unborne named (fun o member => provenance_of_mem_walk member)
      c.identities d.identities clusterScoped t k

end Sweep

namespace Completion

open Cluster Sweep

def sampleSwept (c : Cluster) : Cluster :=
  .calm ((sampleNext c).run (sweep sampleRequest clusterScoped)).2.store c.logs sampleIdentities

theorem sampleSwept_calm (c : Cluster) : (sampleSwept c).Calm := calm_calm _ _ _

theorem sampleSwept_store (c : Cluster) : (sampleSwept c).store =
    ((sampleNext c).run (sweep sampleRequest clusterScoped)).2.store := rfl

theorem sampleSwept_agrees (c : Cluster) : c.logs.Agrees (sampleSwept c).logs := .refl _

theorem sampleStore_unborne :
    ∀ o ∈ sampleStore.objects, ¬(Provenance.ofParent sampleRequest).Borne o.metadata.labels := by
  decide +kernel

theorem sampleSwept_pods :
    (podsOf (sampleSwept (sampleCluster definitionOutput)).store sampleJob).length = 1 := by
  obtain ⟨-, -, pods⟩ := definition_runs
  have kept : (sampleNext (sampleCluster definitionOutput)).store.Kept :=
    (sampleNext_reachable (sampleCluster_store definitionOutput)).kept
  rw [sampleSwept_store, (calm_sweep (sampleNext_calm _) kept sampleRequest clusterScoped).2,
    podsOf_cleared, sampleNext_store, (sample_completes _ _ _).1, pods, sample_pods]
  rfl

theorem restored_by_completion_sample :
    let c := sampleCluster definitionOutput
    let again := (sampleSwept c).run (complete "x" sampleRequest sampleJob)
    let role? (s : Store) := s.find? ClusterRole.coordinates
      ⟨"", Persona.admin.roleName "x" sampleRequest.namespaceName⟩
    (∃ updated, (c.run (complete "x" sampleRequest sampleJob)).1 = .ok updated ∧
      again.1 = .ok updated) ∧
    ∃ o i, role? (sampleNext c).store = some o ∧ role? (sampleSwept c).store = none ∧
      role? again.2.store = some (Store.identified o i) := by
  have installs := sample_installs
  have store := sampleCluster_store definitionOutput
  have one := sampleSwept_pods
  generalize sampleCluster definitionOutput = c at *
  have reachable : c.store.Reachable := by
    rw [store]
    exact sampleStore_reachable
  obtain ⟨updated, done⟩ := installs.succeeds
  obtain ⟨-, same, -, -, -, -, restored⟩ := restored_by_completion reachable installs.calm
    (by rw [store]; exact sampleStore_unborne) done (sampleNext_calm c) (sampleNext_store c)
    (sampleSwept_calm c) (sampleSwept_store c) (sampleSwept_agrees c) one
  refine ⟨⟨updated, done, same⟩, ?_⟩
  -- the role was created by the first completion, and the sweep takes it
  have kept : (sampleNext c).store.Kept := (sampleNext_reachable store).kept
  obtain ⟨e, there, here⟩ := List.mem_map.1 (installs.role_taken .admin)
  have free : e.place ∉ c.store.places := by
    rw [here, store]
    exact sample_places_free .admin
  have borne := provenance_of_free c "x" sampleRequest sampleJob there free
  rw [← sampleNext_store] at there
  have found := kept.find?_eq_some_iff.2 ⟨e, there, here, rfl⟩
  have gone := find?_calm_sweep (sampleNext_calm c) kept sampleRequest clusterScoped found
  rw [if_pos ⟨by decide, borne⟩, ← sampleSwept_store] at gone
  have back := restored ClusterRole.coordinates
    ⟨"", Persona.admin.roleName "x" sampleRequest.namespaceName⟩
  rw [found, gone] at back
  generalize again : ((sampleSwept c).run (complete "x" sampleRequest sampleJob)).2.store.find?
    ClusterRole.coordinates ⟨"", Persona.admin.roleName "x" sampleRequest.namespaceName⟩ = r at back
  cases back with
  | anew o i => exact ⟨e.object, i, found, gone, again⟩

end Completion

end PackageInstall
