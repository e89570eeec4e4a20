import PackageInstall.Proofs.Effect

namespace PackageInstall

namespace Store

def since (s before : Store) : Store := { s with entries := s.entries.drop before.size }

theorem list_since {s before : Store} (grown : before.entries <+: s.entries) (c : Coordinates)
    (namespaceName : Option String) (selector : Selector) :
    s.list c namespaceName selector =
      before.list c namespaceName selector ++ (s.since before).list c namespaceName selector := by
  obtain ⟨more, grown⟩ := grown
  have dropped : s.entries.drop before.size = more := by
    rw [← grown, size, List.drop_left]
  unfold list since
  simp only [dropped]
  rw [← grown, List.filter_append, List.map_append]

end Store

namespace Completion

open Cluster

theorem complete_podCount {c : Cluster} (rolePrefix : String) (request : InstallRequest) {job : Job}
    (listed : c.failure? (podCall job) = none) (many : (podsOf c.store job).length ≠ 1) :
    (c.run (complete rolePrefix request job)).2.store = c.store ∧
      (c.run (complete rolePrefix request job)).1 =
        .error (.podCount job.metadata.name (podsOf c.store job).length) := by
  obtain ⟨outcome, -, store⟩ := run_complete c rolePrefix request job
  have found : podReply c job =
      .error (.podCount job.metadata.name (podsOf c.store job).length) := by
    rw [podReply_of_listed listed]
    rcases pods : podsOf c.store job with _ | ⟨pod, _ | ⟨other, rest⟩⟩
    · rfl
    · exact absurd (by rw [pods]; rfl) many
    · rfl
  simp only [course, found] at outcome store
  exact ⟨store, outcome⟩

theorem calm_complete_podCount {c : Cluster} (calm : c.Calm) (rolePrefix : String)
    (request : InstallRequest) {job : Job} (many : (podsOf c.store job).length ≠ 1) :
    (c.run (complete rolePrefix request job)).2.store = c.store ∧
      (c.run (complete rolePrefix request job)).1 =
        .error (.podCount job.metadata.name (podsOf c.store job).length) :=
  complete_podCount rolePrefix request (calm.failure?_eq _) many

theorem calm_complete_unread {c : Cluster} (calm : c.Calm) (rolePrefix : String)
    (request : InstallRequest) {job : Job} {pod : Object} (one : podsOf c.store job = [pod])
    {e : InstallError}
    (unread : outputIn c.logs ⟨job.metadata.namespaceName, pod.name⟩ = .error e) :
    (c.run (complete rolePrefix request job)).2.store = c.store ∧
      (c.run (complete rolePrefix request job)).1 = .error e := by
  obtain ⟨outcome, -, store⟩ := run_complete c rolePrefix request job
  have found : podReply c job = .ok pod.name := by rw [calm_podReply calm, one]
  have read : outputReply (calling c [podCall job]) ⟨job.metadata.namespaceName, pod.name⟩ =
    .error e := (calm_outputReply (calm_calling calm _) _).trans unread
  simp only [course, found, read] at outcome store
  exact ⟨store, outcome⟩

theorem calm_complete_ok {c : Cluster} (calm : c.Calm) {rolePrefix : String}
    {request updated : InstallRequest} {job : Job}
    (done : (c.run (complete rolePrefix request job)).1 = .ok updated) :
    ∃ pod output, podsOf c.store job = [pod] ∧
      outputIn c.logs ⟨job.metadata.namespaceName, pod.name⟩ = .ok output := by
  by_cases count : (podsOf c.store job).length = 1
  · obtain ⟨pod, one⟩ := List.length_eq_one_iff.1 count
    cases read : outputIn c.logs ⟨job.metadata.namespaceName, pod.name⟩ with
    | ok output => exact ⟨pod, output, one, read⟩
    | error e =>
      rw [(calm_complete_unread calm rolePrefix request one read).2] at done
      cases done
  · rw [(calm_complete_podCount calm rolePrefix request count).2] at done
    cases done

theorem outputIn_of_agrees {b b' : LogBook} (agrees : b.Agrees b') (key : ObjectKey) :
    outputIn b' key = outputIn b key := by
  unfold outputIn
  rw [agrees.body]
  cases b.body key with
  | error e => rfl
  | ok body => simp only [agrees.deliver]

def sampleNext (c : Cluster) : Cluster :=
  .calm (c.run (complete "x" sampleRequest sampleJob)).2.store c.logs sampleIdentities

theorem sampleNext_calm (c : Cluster) : (sampleNext c).Calm := calm_calm _ _ _

theorem exists_ok {ε α : Type} {r : Except ε α} (ok : r.isOk = true) : ∃ a, r = .ok a := by
  cases r with
  | ok a => exact ⟨a, rfl⟩
  | error e => cases ok

/-- The output of a package that brings a pod along under the name of the job. -/
def podOutput : String :=
  "apiVersion: v1\nkind: Pod\nmetadata:\n  name: q\n  namespace: a\n  labels:\n    job-name: j\n" ++
    "---\n" ++ sampleOutput

/-- A completion that is repeated leaves the store as it is. It succeeds with the same answer unless
the first has created pods of the job, which it counts. -/
theorem complete_again {c d : Cluster} (calm : c.Calm) (calm' : d.Calm) {rolePrefix : String}
    {request updated : InstallRequest} {job : Job}
    (done : (c.run (complete rolePrefix request job)).1 = .ok updated)
    (continued : d.store = (c.run (complete rolePrefix request job)).2.store)
    (agrees : c.logs.Agrees d.logs) :
    let created := podsOf (d.store.since c.store) job
    (d.run (complete rolePrefix request job)).2.store = d.store ∧
      (d.run (complete rolePrefix request job)).1 =
        if created = [] then .ok updated
        else .error (.podCount job.metadata.name (1 + created.length)) := by
  intro created
  obtain ⟨pod, output, one, written⟩ := calm_complete_ok calm done
  obtain ⟨store, outcome⟩ := calm_complete calm rolePrefix request one written
  let walked := walk rolePrefix request (Documents.decode output)
  have grown : c.store.entries <+: d.store.entries := by
    rw [continued, store]
    exact Store.entries_prefix_absorbAll _ _
  have pods : podsOf d.store job = pod :: created :=
    (Store.list_since grown _ _ _).trans (congrArg (· ++ created) one)
  cases new : created with
  | nil =>
    rw [new] at pods
    have written' : outputIn d.logs ⟨job.metadata.namespaceName, pod.name⟩ = .ok output :=
      (outputIn_of_agrees agrees _).trans written
    obtain ⟨store', outcome'⟩ := calm_complete calm' rolePrefix request pods written'
    have taken : ∀ o ∈ walked.objects, o.place ∈ d.store.places := by
      intro o member
      rw [continued, store]
      exact Store.place_mem_absorbAll member (name_ne_of_mem_walk member)
    have unchanged : (d.run (complete rolePrefix request job)).2.store = d.store :=
      store'.trans (Store.absorbAll_of_taken taken)
    refine ⟨unchanged, ?_⟩
    rw [outcome', unchanged, continued, ← outcome, done]
    rfl
  | cons other rest =>
    have count : (podsOf d.store job).length = 1 + (other :: rest).length := by
      rw [pods, new, List.length_cons, Nat.add_comm]
    have many : (podsOf d.store job).length ≠ 1 := by
      rw [count, List.length_cons]
      omega
    obtain ⟨store', outcome'⟩ := calm_complete_podCount calm' rolePrefix request many
    rw [count] at outcome'
    exact ⟨store', outcome'⟩

theorem complete_again_sample :
    ∃ updated,
      ((sampleCluster sampleOutput).run (complete "x" sampleRequest sampleJob)).1 = .ok updated ∧
      ((sampleNext (sampleCluster sampleOutput)).run (complete "x" sampleRequest sampleJob)).1 =
        .ok updated ∧
      ((sampleNext (sampleCluster sampleOutput)).run
        (complete "x" sampleRequest sampleJob)).2.store =
        (sampleNext (sampleCluster sampleOutput)).store := by
  have ran : ((sampleCluster sampleOutput).run (complete "x" sampleRequest sampleJob)).1.isOk =
      true ∧
      podsOf ((sampleNext (sampleCluster sampleOutput)).store.since sampleStore) sampleJob =
        [] := by
    decide +kernel
  obtain ⟨ok, unseen⟩ := ran
  obtain ⟨updated, done⟩ := exists_ok ok
  have calm : (sampleCluster sampleOutput).Calm := calm_calm _ _ _
  have before : (sampleCluster sampleOutput).store = sampleStore := rfl
  -- what runs is kept from being evaluated
  generalize sampleCluster sampleOutput = c at *
  obtain ⟨store, outcome⟩ := complete_again calm (sampleNext_calm c) done rfl (.refl _)
  rw [before, if_pos unseen] at outcome
  exact ⟨updated, done, outcome, store⟩

theorem complete_only_once :
    (∃ updated, ((sampleCluster podOutput).run (complete "x" sampleRequest sampleJob)).1 =
      .ok updated) ∧
    ((sampleNext (sampleCluster podOutput)).run (complete "x" sampleRequest sampleJob)).1 =
      .error (.podCount "j" 2) := by
  have ran : ((sampleCluster podOutput).run (complete "x" sampleRequest sampleJob)).1.isOk =
      true ∧ (podsOf (sampleNext (sampleCluster podOutput)).store sampleJob).length = 2 := by
    decide +kernel
  obtain ⟨ok, pods⟩ := ran
  refine ⟨exists_ok ok, ?_⟩
  generalize sampleCluster podOutput = c at *
  have counted := (calm_complete_podCount (sampleNext_calm c) "x" sampleRequest
    (by rw [pods]; decide)).2
  rwa [pods] at counted

end Completion

end PackageInstall
