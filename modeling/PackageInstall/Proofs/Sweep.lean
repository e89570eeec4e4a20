import PackageInstall.Proofs.Provenance
import PackageInstall.Proofs.Removal

namespace PackageInstall.Sweep

open Cluster

variable {α : Type} {request : InstallRequest}

def Marked (request : InstallRequest) (types : List Coordinates) (e : Store.Entry) : Prop :=
  e.coordinates ∈ types ∧ (Provenance.ofParent request).Borne e.object.metadata.labels

instance (request : InstallRequest) (types : List Coordinates) (e : Store.Entry) :
    Decidable (Marked request types e) := inferInstanceAs (Decidable (_ ∧ _))

theorem deletion_mem_planned {s : Store} (kept : s.Kept) {t t' : Coordinates} {k : ObjectKey} :
    .deletion t' k ∈ planned request s t ↔
      ∃ e ∈ s.entries, e.place = (t', k) ∧ Marked request [t] e := by
  have listed : .deletion t' k ∈ planned request s t ↔ ∃ e ∈ s.entries, e.coordinates = t ∧
      (Provenance.ofParent request).Borne e.object.metadata.labels ∧ t = t' ∧
      ObjectKey.ofObject e.object = k := by
    simp [planned, deletions, Store.list, Provenance.selector_admits_iff, and_assoc]
  have keys : ∀ e ∈ s.entries, e.key = .ofObject e.object := fun e member =>
    congrArg Prod.snd (kept.keyed e member)
  rw [listed]
  constructor
  · rintro ⟨e, member, rfl, borne, rfl, rfl⟩
    exact ⟨e, member, Prod.ext rfl (keys e member), List.mem_singleton_self _, borne⟩
  · rintro ⟨e, member, here, type, borne⟩
    obtain ⟨rfl, rfl⟩ := Prod.mk.inj here
    obtain rfl := List.mem_singleton.1 type
    exact ⟨e, member, rfl, borne, rfl, (keys e member).symm⟩

structure Clears (request : InstallRequest) (types : List Coordinates) (c : Cluster)
    (steps : List Step) : Prop where
  about : ∀ t k, .deletion t k ∈ steps →
    ∃ e ∈ c.store.entries, e.place = (t, k) ∧ Marked request types e
  reached : halt? request (c.answers steps) = none →
    ∀ e ∈ (c.afterSteps steps).store.entries, Marked request types e →
      .deletion e.coordinates e.key ∈ steps

theorem Takes.clears {c : Cluster} {work : Work InstallError α} {steps back : List Step}
    {value : α} (takes : Takes request c work steps value) {types : List Coordinates}
    (clears : Clears request types (c.run work).2 back) :
    Clears request types (c.afterSteps steps) back where
  about := by
    rw [← takes.store]
    exact clears.about
  reached := by
    rw [← takes.answers, ← takes.store_after]
    exact clears.reached

namespace Clears

variable {c : Cluster} {types : List Coordinates} {t : Coordinates} {front : List Step}

theorem of_follows (kept : c.store.Kept)
    (follows : Follows request c front (planned request c.store t)) :
    Clears request [t] c front where
  about _ _ member := (deletion_mem_planned kept).1 (follows.front.subset member)
  reached through e there marked := by
    have stored : e ∈ c.store.entries := (sublist_afterSteps c front).subset there
    rw [follows.whole through]
    exact (deletion_mem_planned kept).2 ⟨e, stored, rfl, marked⟩

theorem about_cons (clears : Clears request [t] c front) (types : List Coordinates) :
    ∀ t' k, .deletion t' k ∈ front →
      ∃ e ∈ c.store.entries, e.place = (t', k) ∧ Marked request (t :: types) e := by
  intro t' k member
  obtain ⟨e, stored, here, type, borne⟩ := clears.about t' k member
  exact ⟨e, stored, here, List.mem_cons.2 (.inl (List.mem_singleton.1 type)), borne⟩

theorem stopped (clears : Clears request [t] c front) {e : InstallError}
    (halts : halt? request (c.answers front) = some e) (types : List Coordinates) :
    Clears request (t :: types) c front where
  about := clears.about_cons types
  reached through := by
    rw [halts] at through
    cases through

theorem append {back : List Step} (first : Clears request [t] c front)
    (passes : halt? request (c.answers front) = none)
    (second : Clears request types (c.afterSteps front) back) :
    Clears request (t :: types) c (front ++ back) where
  about t' k member := by
    rcases List.mem_append.1 member with early | later
    · exact first.about_cons types t' k early
    · obtain ⟨e, stored, here, type, borne⟩ := second.about t' k later
      exact ⟨e, (sublist_afterSteps c front).subset stored, here, List.mem_cons_of_mem _ type,
        borne⟩
  reached through e there marked := by
    rw [halt?_of_passed passes] at through
    rw [afterSteps_append] at there
    rcases List.mem_cons.1 marked.1 with here | later
    · -- the store only shrinks, so what is left of a type was there after the type's own steps
      have stored : e ∈ (c.afterSteps front).store.entries :=
        (sublist_afterSteps _ back).subset there
      exact List.mem_append_left _
        (first.reached passes e stored ⟨List.mem_singleton.2 here, marked.2⟩)
    · exact List.mem_append_right _ (second.reached through e there ⟨later, marked.2⟩)

end Clears

theorem takes_sweepTypes (request : InstallRequest) {c : Cluster} (kept : c.store.Kept)
    (types : List Coordinates) (deleted : Nat) :
    ∃ steps, Takes request c (sweepTypes request types deleted) steps
        (deleted + (c.answers steps).countP Answer.granted) ∧
      Clears request types c steps := by
  induction types generalizing c deleted with
  | nil =>
    refine ⟨[], Takes.pure c deleted, fun t k member => ?_, fun _ e _ marked => ?_⟩
    · cases member
    · cases marked.1
  | cons t rest ih =>
    obtain ⟨front, first, follows⟩ := takes_sweepType request c t deleted
    have clears : Clears request [t] c front := .of_follows kept follows
    rw [sweepTypes]
    cases halts : halt? request (c.answers front) with
    | some e => exact ⟨front, first.bind_stopped halts _ _, clears.stopped halts rest⟩
    | none =>
      have kept' : (c.run (sweepType request t deleted)).2.store.Kept := by
        rw [first.store]
        exact kept_afterSteps kept front
      obtain ⟨back, second, clears'⟩ :=
        ih kept' (deleted + (c.answers front).countP Answer.granted)
      rw [first.answers] at second
      refine ⟨front ++ back, ?_, clears.append halts (first.clears clears')⟩
      rw [answers_append, List.countP_append, ← Nat.add_assoc]
      exact first.bind halts second

theorem takes_sweep (request : InstallRequest) {c : Cluster} (kept : c.store.Kept)
    (types : List Coordinates) :
    ∃ steps, Takes request c (sweep request types) steps
        ((c.answers steps).countP Answer.granted) ∧
      Clears request types c steps := by
  obtain ⟨steps, first, clears⟩ := takes_sweepTypes request kept types 0
  rw [Nat.zero_add] at first
  refine ⟨steps, ?_, clears⟩
  cases stopped : halt? request (c.answers steps) with
  | some e => exact first.bind_stopped stopped _ _
  | none =>
    let deleted := (c.answers steps).countP Answer.granted
    have closing : Takes request (c.run (sweepTypes request types 0)).2
        (Cluster.note (.swept request.name deleted) >>= fun _ => pure deleted) [] deleted :=
      (Takes.note _ _).bind rfl (Takes.pure _ _)
    have whole : Takes request c (sweep request types) (steps ++ []) deleted := by
      unfold sweep
      exact first.bind stopped closing
    rwa [List.append_nil] at whole

def cleared (request : InstallRequest) (types : List Coordinates) (s : Store) : Store :=
  { s with entries := s.entries.filter fun e => !decide (Marked request types e) }

theorem Clears.spares {c : Cluster} {types : List Coordinates} {steps : List Step}
    (clears : Clears request types c steps) (kept : c.store.Kept) {e : Store.Entry}
    (stored : e ∈ c.store.entries) (unmarked : ¬Marked request types e) :
    ∀ t k, .deletion t k ∈ steps → e.place ≠ (t, k) := by
  intro t k member here
  obtain ⟨e', stored', there, marked⟩ := clears.about t k member
  rw [kept.eq_of_place stored stored' (here.trans there.symm)] at unmarked
  exact unmarked marked

theorem calm_halt? {c : Cluster} (calm : c.Calm) (steps : List Step) :
    halt? request (c.answers steps) = none := by
  induction steps generalizing c with
  | nil => rfl
  | cons s rest ih =>
    have passes : stop? request (s, s.error? c) = none := by
      cases s with
      | listing t selector =>
        simp only [Step.error?, calm.failure?_eq]
        rfl
      | deletion t k =>
        simp only [Step.error?, calm.deleteError?_eq]
        split <;> rfl
    rw [halt?, answers, List.findSome?_cons, passes]
    exact ih (calm.afterStep s)

theorem size_cleared (request : InstallRequest) (types : List Coordinates) (s : Store) :
    s.entries.countP (fun e => decide (Marked request types e)) +
      (cleared request types s).size = s.size := by
  have parts := List.length_eq_countP_add_countP (fun e => decide (Marked request types e))
    (l := s.entries)
  simp only [Bool.not_eq_true, Bool.decide_eq_false] at parts
  simp only [cleared, Store.size, ← List.countP_eq_length_filter, parts]

theorem calm_store {c : Cluster} (calm : c.Calm) (kept : c.store.Kept) {types : List Coordinates}
    {steps : List Step} (clears : Clears request types c steps) :
    (c.afterSteps steps).store = cleared request types c.store := by
  obtain ⟨keep, left, others⟩ := entries_afterSteps c steps
  have same : ∀ e ∈ c.store.entries, keep e = !decide (Marked request types e) := by
    intro e stored
    by_cases marked : Marked request types e
    · rw [decide_eq_true marked, Bool.not_true, ← Bool.not_eq_true]
      intro stays
      have there : e ∈ (c.afterSteps steps).store.entries := by
        rw [left]
        exact List.mem_filter.2 ⟨stored, stays⟩
      exact calm.gone (clears.reached (calm_halt? calm steps) e there marked)
        (List.mem_map_of_mem there)
    · rw [decide_eq_false marked]
      exact others e (clears.spares kept stored marked)
  have entries : (c.afterSteps steps).store.entries =
      c.store.entries.filter fun e => !decide (Marked request types e) :=
    left.trans (List.filter_congr same)
  calc (c.afterSteps steps).store
      = ⟨(c.afterSteps steps).store.entries, (c.afterSteps steps).store.issued⟩ := rfl
    _ = cleared request types c.store := by rw [entries, afterSteps_issued]; rfl

theorem calm_sweep {c : Cluster} (calm : c.Calm) (kept : c.store.Kept) (request : InstallRequest)
    (types : List Coordinates) :
    (c.run (sweep request types)).1 =
        .ok (c.store.entries.countP fun e => decide (Marked request types e)) ∧
      (c.run (sweep request types)).2.store = cleared request types c.store := by
  obtain ⟨steps, takes, clears⟩ := takes_sweep request kept types
  have store := calm_store calm kept clears
  have counted : (c.answers steps).countP Answer.granted =
      c.store.entries.countP fun e => decide (Marked request types e) := by
    have whole := calm.size_afterSteps kept steps
    have parts := size_cleared request types c.store
    rw [store] at whole
    omega
  have outcome := takes.outcome
  rw [calm_halt? calm steps, counted] at outcome
  exact ⟨outcome, takes.store.trans store⟩

/-- What comes of a sweep that takes steps: which calls it makes and where it stops, what it
answers, and what it leaves of the store. -/
structure Exact (request : InstallRequest) (types : List Coordinates) (c : Cluster)
    (steps : List Step) (answer : Except InstallError Nat) (after : Cluster) : Prop where
  journal : after.journal = c.journal ++ steps.map Step.call
  passed : ∀ a ∈ (c.answers steps).dropLast, stop? request a = none
  answer : answer =
    match halt? request (c.answers steps) with
    | some e => .error e
    | none => .ok ((c.answers steps).countP Answer.granted)
  store : after.store = (c.afterSteps steps).store
  issued : after.store.issued = c.store.issued
  ordered : after.store.entries.Sublist c.store.entries
  spared : ∀ e ∈ c.store.entries, ¬Marked request types e → e ∈ after.store.entries
  gone : ∀ t k, (.deletion t k, none) ∈ c.answers steps → (t, k) ∉ after.store.places
  survivors : halt? request (c.answers steps) = none →
    ∀ e ∈ after.store.entries, Marked request types e → ∃ n error,
      c.faults n (.delete e.coordinates e.key) = some (.fails error) ∧ error.isNotFound = true ∧
        (.deletion e.coordinates e.key, some error) ∈ c.answers steps

theorem isNotFound_of_passed {t : Coordinates} {k : ObjectKey} {e : StoreError}
    (passed : stop? request (.deletion t k, some e) = none) : e.isNotFound = true := by
  simp only [stop?] at passed
  split at passed
  · assumption
  · cases passed

theorem exact_sweep (request : InstallRequest) {c : Cluster} (kept : c.store.Kept)
    (types : List Coordinates) :
    ∃ steps, Exact request types c steps (c.run (sweep request types)).1
      (c.run (sweep request types)).2 := by
  obtain ⟨steps, takes, clears⟩ := takes_sweep request kept types
  obtain ⟨keep, left, others⟩ := entries_afterSteps c steps
  have store := takes.store
  refine ⟨steps, ?_, takes.passed, takes.outcome, store, ?_, ?_, ?_, ?_, ?_⟩
  · obtain ⟨notes, after⟩ := takes.left
    rw [after]
    exact afterSteps_journal c steps
  · rw [store]
    exact afterSteps_issued c steps
  · rw [store]
    exact sublist_afterSteps c steps
  · intro e stored unmarked
    rw [store, left]
    exact List.mem_filter.2 ⟨stored, others e (clears.spares kept stored unmarked)⟩
  · intro t k granted
    rw [store]
    rcases gone_or_fails granted with gone | ⟨n, e, -, answered⟩
    · exact gone
    · cases answered
  · intro through e there marked
    rw [store] at there
    obtain ⟨e?, answered⟩ := exists_answer (clears.reached through e there marked)
    rcases gone_or_fails answered with gone | ⟨n, error, fault, rfl⟩
    · exact absurd (List.mem_map_of_mem there) gone
    · have passed := List.findSome?_eq_none_iff.1 through _ answered
      exact ⟨n, error, fault, isNotFound_of_passed passed, answered⟩

theorem cleared_sweep (request : InstallRequest) {c : Cluster} (kept : c.store.Kept)
    (types : List Coordinates) :
    cleared request types (c.run (sweep request types)).2.store =
      cleared request types c.store := by
  obtain ⟨steps, takes, clears⟩ := takes_sweep request kept types
  obtain ⟨keep, left, others⟩ := entries_afterSteps c steps
  have same : ∀ e ∈ c.store.entries, (!decide (Marked request types e) && keep e) =
      !decide (Marked request types e) := by
    intro e stored
    by_cases marked : Marked request types e
    · rw [decide_eq_true marked, Bool.not_true, Bool.false_and]
    · rw [others e (clears.spares kept stored marked), Bool.and_true]
  simp only [cleared, takes.store, left, List.filter_filter, List.filter_congr same,
    afterSteps_issued]

inductive Resumed (request : InstallRequest) (types : List Coordinates) (s : Store) :
    Store → Prop where
  | start : Resumed request types s s
  | again {c : Cluster} :
    Resumed request types s c.store →
    Resumed request types s (c.run (sweep request types)).2.store

theorem Resumed.kept {types : List Coordinates} {s t : Store}
    (resumed : Resumed request types s t) (kept : s.Kept) : t.Kept := by
  induction resumed with
  | start => exact kept
  | again _ ih =>
    obtain ⟨steps, exact⟩ := exact_sweep request ih types
    exact ih.sublist exact.ordered

theorem Resumed.cleared_eq {types : List Coordinates} {s t : Store}
    (resumed : Resumed request types s t) (kept : s.Kept) :
    cleared request types t = cleared request types s := by
  induction resumed with
  | start => rfl
  | again earlier ih => exact (cleared_sweep request (earlier.kept kept) types).trans ih

/-- Whatever calls fail, a sweep removes only what is marked, stops at the first failure in earnest
and counts the deletions that are granted. Where no call fails, at once or after sweeps that broke
off, it removes and counts all that is marked still. -/
theorem sweep_exact {c : Cluster} (reachable : c.store.Reachable) (request : InstallRequest)
    (types : List Coordinates) :
    (∃ steps, Exact request types c steps (c.run (sweep request types)).1
        (c.run (sweep request types)).2) ∧
      ∀ d : Cluster, d.Calm → Resumed request types c.store d.store →
        (d.run (sweep request types)).1 =
            .ok (d.store.entries.countP fun e => decide (Marked request types e)) ∧
          (d.run (sweep request types)).2.store = cleared request types c.store := by
  have kept : c.store.Kept := reachable.kept
  refine ⟨exact_sweep request kept types, fun d calm resumed => ?_⟩
  obtain ⟨answer, store⟩ := calm_sweep calm (resumed.kept kept) request types
  exact ⟨answer, store.trans (resumed.cleared_eq kept)⟩

def sampleRequest : InstallRequest := .ofPackage .stackInstall "a" "r" "image"

def sampleOwned (t : Coordinates) (name : String) : Object :=
  .ofCoordinates t ((Provenance.ofParent sampleRequest).apply (.ofName "" name))

/-- An object that lacks the label that names the request's identity, which is empty. -/
def sampleOther : Object :=
  .ofCoordinates Coordinates.schemaDefinition ((Metadata.ofName "" "other").addLabels
    (KeyMap.ofList (Provenance.ofParent sampleRequest).pairs.dropLast).entries)

theorem sampleDate_valid : Calendar.Date.Valid ⟨2024, 5, 1⟩ := by decide

theorem sampleClock_valid : Calendar.Clock.Valid ⟨0, 0, 0, 0⟩ := by decide

def sampleIdentity : Identity :=
  ⟨"u", ⟨⟨2024, 5, 1⟩, ⟨0, 0, 0, 0⟩, sampleDate_valid, sampleClock_valid⟩⟩

def sampleStore : Store :=
  Store.empty.absorbAll (fun _ => sampleIdentity)
    [sampleOwned Coordinates.schemaDefinition "x", sampleOther,
      sampleOwned Coordinates.schemaDefinition "y", sampleOwned ClusterRole.coordinates "z"]

def sampleFaulty : Cluster :=
  { Cluster.calm sampleStore .empty fun _ => sampleIdentity with
    faults := fun _ call =>
      if call = .delete Coordinates.schemaDefinition ⟨"", "y"⟩ then
        some (.fails (.storage "down")) else none }

def sampleMended (c : Cluster) : Cluster :=
  .calm (c.run (sweep sampleRequest clusterScoped)).2.store .empty fun _ => sampleIdentity

theorem sampleMended_resumed (c : Cluster) :
    Resumed sampleRequest clusterScoped c.store (sampleMended c).store := .again .start

theorem sweep_exact_sample :
    (sampleFaulty.run (sweep sampleRequest clusterScoped)).1 =
        .error (.sweep "CustomResourceDefinition" "r" (.storage "down")) ∧
      (sampleMended sampleFaulty).store.objects.map (·.name) = ["other", "y", "z"] ∧
      ((sampleMended sampleFaulty).run (sweep sampleRequest clusterScoped)).1 = .ok 2 ∧
      ((sampleMended sampleFaulty).run
        (sweep sampleRequest clusterScoped)).2.store.objects.map (·.name) = ["other"] := by
  have reachable : sampleFaulty.store.Reachable := Store.Reachable.empty.absorbAll _ _
  have calm : (sampleMended sampleFaulty).Calm := ⟨fun _ _ => rfl, fun _ _ => rfl⟩
  have known : (sampleFaulty.run (sweep sampleRequest clusterScoped)).1 =
        .error (.sweep "CustomResourceDefinition" "r" (.storage "down")) ∧
      (sampleMended sampleFaulty).store.objects.map (·.name) = ["other", "y", "z"] ∧
      ((sampleMended sampleFaulty).store.entries.countP fun e =>
        decide (Marked sampleRequest clusterScoped e)) = 2 ∧
      (cleared sampleRequest clusterScoped sampleFaulty.store).objects.map (·.name) =
        ["other"] := by
    decide +kernel
  obtain ⟨stopped, left, count, rest⟩ := known
  obtain ⟨-, resumes⟩ := sweep_exact reachable sampleRequest clusterScoped
  obtain ⟨answer, store⟩ := resumes _ calm (sampleMended_resumed sampleFaulty)
  rw [count] at answer
  rw [← store] at rest
  exact ⟨stopped, left, answer, rest⟩

end PackageInstall.Sweep
