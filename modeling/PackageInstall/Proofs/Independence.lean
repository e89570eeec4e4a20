import PackageInstall.Proofs.Retry

namespace PackageInstall

namespace Store

theorem find?_absorbAll (identities : Nat → Identity) (s : Store) {os : List Object}
    (named : ∀ o ∈ os, o.name ≠ "") (c : Coordinates) (k : ObjectKey) :
    ((s.absorbAll identities os).find? c k).map Object.bare =
      ((s.find? c k).map Object.bare).or
        ((os.find? fun o => decide (o.place = (c, k))).map Object.bare) := by
  cases held : s.find? c k with
  | some o =>
    rw [find?_of_grown (entries_prefix_absorbAll s os) held]
    rfl
  | none =>
    have comes := find?_absorbAll_of_free identities held named
    cases first : os.find? fun o => decide (o.place = (c, k)) with
    | none =>
      simp only [first] at comes
      rw [comes]
      rfl
    | some o =>
      simp only [first] at comes
      obtain ⟨i, stands⟩ := comes
      rw [stands]
      rfl

def Apart (os os' : List Object) : Prop := ∀ o ∈ os, ∀ o' ∈ os', o.place ≠ o'.place

instance (os os' : List Object) : Decidable (Apart os os') :=
  inferInstanceAs (Decidable (∀ o ∈ os, ∀ o' ∈ os', o.place ≠ o'.place))

theorem Apart.symm {os os' : List Object} (apart : Apart os os') : Apart os' os :=
  fun o' member' o member same => apart o member o' member' same.symm

theorem Apart.find?_or {os os' : List Object} (apart : Apart os os') (p : Place) :
    (os.find? fun o => decide (o.place = p)) = none ∨
      (os'.find? fun o => decide (o.place = p)) = none := by
  cases first : os.find? fun o => decide (o.place = p) with
  | none => exact .inl rfl
  | some o =>
    have here : o.place = p := by simpa using List.find?_some first
    refine .inr (List.find?_eq_none.2 fun o' member' => ?_)
    have other := apart o (List.mem_of_find?_eq_some first) o' member'
    rw [here] at other
    simpa using other.symm

variable {identities₁ identities₂ identities₃ identities₄ : Nat → Identity}

theorem find?_absorbAll_comm (s : Store) {os os' : List Object} (named : ∀ o ∈ os, o.name ≠ "")
    (named' : ∀ o ∈ os', o.name ≠ "") (apart : Apart os os') (c : Coordinates) (k : ObjectKey) :
    (((s.absorbAll identities₁ os).absorbAll identities₂ os').find? c k).map Object.bare =
      (((s.absorbAll identities₃ os').absorbAll identities₄ os).find? c k).map Object.bare := by
  simp only [find?_absorbAll _ _ named, find?_absorbAll _ _ named', Option.or_assoc]
  rcases apart.find?_or (c, k) with absent | absent <;> simp [absent]

theorem find?_absorbAll_after (s : Store) {os os' : List Object} (named : ∀ o ∈ os, o.name ≠ "")
    (named' : ∀ o ∈ os', o.name ≠ "") (apart : Apart os os') {o : Object} (member : o ∈ os) :
    ((s.absorbAll identities₁ os).find? o.coordinates (.ofObject o)).map Object.bare =
      (((s.absorbAll identities₂ os').absorbAll identities₃ os).find? o.coordinates
        (.ofObject o)).map Object.bare := by
  have absent : (os'.find? fun o' => decide (o'.place = (o.coordinates, .ofObject o))) = none := by
    refine List.find?_eq_none.2 fun o' member' => ?_
    exact fun same => apart o member o' member' (of_decide_eq_true same).symm
  simp only [find?_absorbAll _ _ named, find?_absorbAll _ _ named', absent, Option.map_none,
    Option.or_none]

end Store

namespace Completion

open Cluster

def prospect (b : LogBook) (rolePrefix : String) (request : InstallRequest) (job : Job)
    (pod : Object) : Except InstallError Walk :=
  (outputIn b ⟨job.metadata.namespaceName, pod.name⟩).map fun output =>
    walk rolePrefix request (Documents.decode output)

def planned (b : LogBook) (rolePrefix : String) (request : InstallRequest) (job : Job)
    (pod : Object) : List Object :=
  match prospect b rolePrefix request job pod with
  | .ok walked => walked.objects
  | .error _ => []

section

variable {rolePrefix : String} {request : InstallRequest} {job : Job} {pod : Object}

theorem name_ne_of_mem_planned {b : LogBook} {o : Object}
    (member : o ∈ planned b rolePrefix request job pod) : o.name ≠ "" := by
  unfold planned prospect at member
  cases written : outputIn b ⟨job.metadata.namespaceName, pod.name⟩ with
  | error e =>
    rw [written] at member
    cases member
  | ok output =>
    rw [written] at member
    exact name_ne_of_mem_walk member

theorem store_of_planned {b : LogBook} {c : Cluster} (calm : c.Calm) (agrees : b.Agrees c.logs)
    (one : podsOf c.store job = [pod]) :
    (c.run (complete rolePrefix request job)).2.store =
      c.store.absorbAll c.identities (planned b rolePrefix request job pod) := by
  have reads := outputIn_of_agrees agrees ⟨job.metadata.namespaceName, pod.name⟩
  unfold planned prospect
  cases written : outputIn b ⟨job.metadata.namespaceName, pod.name⟩ with
  | error e => exact (calm_complete_unread calm rolePrefix request one (reads.trans written)).1
  | ok output => exact (calm_complete calm rolePrefix request one (reads.trans written)).1

theorem bareOutcome_of_planned {b : LogBook} {c d : Cluster} (calm : c.Calm) (calm' : d.Calm)
    (agrees : b.Agrees c.logs) (agrees' : b.Agrees d.logs) (one : podsOf c.store job = [pod])
    (one' : podsOf d.store job = [pod])
    (same : ∀ o ∈ planned b rolePrefix request job pod,
      ((c.run (complete rolePrefix request job)).2.store.find? o.coordinates
        (.ofObject o)).map Object.bare =
      ((d.run (complete rolePrefix request job)).2.store.find? o.coordinates
        (.ofObject o)).map Object.bare) :
    bareOutcome (c.run (complete rolePrefix request job)).1 =
      bareOutcome (d.run (complete rolePrefix request job)).1 := by
  have reads := outputIn_of_agrees agrees ⟨job.metadata.namespaceName, pod.name⟩
  have reads' := outputIn_of_agrees agrees' ⟨job.metadata.namespaceName, pod.name⟩
  unfold planned prospect at same
  cases written : outputIn b ⟨job.metadata.namespaceName, pod.name⟩ with
  | error e =>
    rw [(calm_complete_unread calm rolePrefix request one (reads.trans written)).2,
      (calm_complete_unread calm' rolePrefix request one' (reads'.trans written)).2]
  | ok output =>
    rw [written] at same
    rw [(calm_complete calm rolePrefix request one (reads.trans written)).2,
      (calm_complete calm' rolePrefix request one' (reads'.trans written)).2]
    exact bareOutcome_outcome same request job

theorem podsOf_after {c d : Cluster} (calm : c.Calm) {job' : Job} {pod' : Object}
    (one : podsOf c.store job = [pod]) (other : podsOf c.store job' = [pod'])
    (continued : d.store = (c.run (complete rolePrefix request job)).2.store)
    (found : (podsOf d.store job').length = 1) : podsOf d.store job' = [pod'] := by
  -- No object goes, so of the pods found before the only one found now can be no other.
  have grown : c.store.entries <+: d.store.entries := by
    rw [continued, store_of_planned calm (.refl _) one]
    exact Store.entries_prefix_absorbAll _ _
  obtain ⟨pod'', now⟩ := List.length_eq_one_iff.1 found
  rw [now, eq_of_podsOf grown other now]

end

/-- Two completions that are to create objects at different places answer the same in both orders,
and leave the same at every place, up to what the store assigns. The clusters `c₁` and `c₂` see the
first and then the second of them, `c₃` and `c₄` the second and then the first. -/
theorem completions_commute {c₁ c₂ c₃ c₄ : Cluster} (calm₁ : c₁.Calm) (calm₂ : c₂.Calm)
    (calm₃ : c₃.Calm) (calm₄ : c₄.Calm) (agrees₂ : c₁.logs.Agrees c₂.logs)
    (agrees₃ : c₁.logs.Agrees c₃.logs) (agrees₄ : c₁.logs.Agrees c₄.logs)
    {rolePrefix rolePrefix' : String} {request request' : InstallRequest} {job job' : Job}
    {pod pod' : Object} (start : c₃.store = c₁.store)
    (continued : c₂.store = (c₁.run (complete rolePrefix request job)).2.store)
    (continued' : c₄.store = (c₃.run (complete rolePrefix' request' job')).2.store)
    (one : podsOf c₁.store job = [pod]) (other : podsOf c₁.store job' = [pod'])
    (still : (podsOf c₂.store job').length = 1) (still' : (podsOf c₄.store job).length = 1)
    (apart : Store.Apart (planned c₁.logs rolePrefix request job pod)
      (planned c₁.logs rolePrefix' request' job' pod')) :
    let first := c₁.run (complete rolePrefix request job)
    let second := c₂.run (complete rolePrefix' request' job')
    let second' := c₃.run (complete rolePrefix' request' job')
    let first' := c₄.run (complete rolePrefix request job)
    bareOutcome first.1 = bareOutcome first'.1 ∧ bareOutcome second'.1 = bareOutcome second.1 ∧
      ∀ t k, (second.2.store.find? t k).map Object.bare =
        (first'.2.store.find? t k).map Object.bare := by
  intro first second second' first'
  let os := planned c₁.logs rolePrefix request job pod
  let os' := planned c₁.logs rolePrefix' request' job' pod'
  have named : ∀ o ∈ os, o.name ≠ "" := fun o member => name_ne_of_mem_planned member
  have named' : ∀ o ∈ os', o.name ≠ "" := fun o member => name_ne_of_mem_planned member
  have other' : podsOf c₃.store job' = [pod'] := by rw [start, other]
  have stays : podsOf c₂.store job' = [pod'] := podsOf_after calm₁ one other continued still
  have stays' : podsOf c₄.store job = [pod] :=
    podsOf_after calm₃ other' (start ▸ one) continued' still'
  -- the four stores, each as what its run creates
  have s₁ : first.2.store = c₁.store.absorbAll c₁.identities os :=
    store_of_planned calm₁ (.refl _) one
  have s₂ : second.2.store = (c₁.store.absorbAll c₁.identities os).absorbAll c₂.identities os' := by
    rw [← s₁, ← continued]
    exact store_of_planned calm₂ agrees₂ stays
  have s₃ : second'.2.store = c₁.store.absorbAll c₃.identities os' := by
    rw [← start]
    exact store_of_planned calm₃ agrees₃ other'
  have s₄ : first'.2.store = (c₁.store.absorbAll c₃.identities os').absorbAll c₄.identities os := by
    rw [← s₃, ← continued']
    exact store_of_planned calm₄ agrees₄ stays'
  refine ⟨?_, ?_, fun t k => ?_⟩
  · refine bareOutcome_of_planned calm₁ calm₄ (.refl _) agrees₄ one stays' fun o member => ?_
    show (first.2.store.find? _ _).map _ = (first'.2.store.find? _ _).map _
    rw [s₁, s₄]
    exact Store.find?_absorbAll_after c₁.store named named' apart member
  · refine bareOutcome_of_planned calm₃ calm₂ agrees₃ agrees₂ other' stays fun o member => ?_
    show (second'.2.store.find? _ _).map _ = (second.2.store.find? _ _).map _
    rw [s₃, s₂]
    exact Store.find?_absorbAll_after c₁.store named' named apart.symm member
  · rw [s₂, s₄]
    exact Store.find?_absorbAll_comm c₁.store named named' apart t k

-- Two jobs in one namespace. The output of the second breaks off after its stack record.

def secondJob : Job := { sampleJob with metadata := .ofName "a" "k" }

def secondRequest : InstallRequest := .ofPackage .stackInstall "a" "s" "image"

def secondPod : Object := .ofCoordinates Pod.coordinates (Pod.ofJob secondJob "q").metadata

def brokenOutput : String := sampleOutput ++ "---\nnothing\n"

def samplePair : Cluster :=
  .calm (sampleStore.absorb sampleIdentities secondPod)
    ((sampleLogs sampleOutput).insert ⟨"a", "q"⟩ (Utf8.encode brokenOutput.toList))
    sampleIdentities

def pairNext (c : Cluster) (request : InstallRequest) (job : Job) : Cluster :=
  .calm (c.run (complete "x" request job)).2.store c.logs sampleIdentities

theorem completions_commute_sample :
    let c := samplePair
    let second := (pairNext c sampleRequest sampleJob).run (complete "x" secondRequest secondJob)
    let first := (pairNext c secondRequest secondJob).run (complete "x" sampleRequest sampleJob)
    (c.run (complete "x" sampleRequest sampleJob)).1.isOk = true ∧
    (c.run (complete "x" secondRequest secondJob)).1.isOk = false ∧
    bareOutcome (c.run (complete "x" sampleRequest sampleJob)).1 = bareOutcome first.1 ∧
    bareOutcome (c.run (complete "x" secondRequest secondJob)).1 = bareOutcome second.1 ∧
    ∀ t k, (second.2.store.find? t k).map Object.bare =
      (first.2.store.find? t k).map Object.bare := by
  have ran : (samplePair.run (complete "x" sampleRequest sampleJob)).1.isOk = true ∧
      (samplePair.run (complete "x" secondRequest secondJob)).1.isOk = false ∧
      (podsOf (pairNext samplePair sampleRequest sampleJob).store secondJob).length = 1 ∧
      (podsOf (pairNext samplePair secondRequest secondJob).store sampleJob).length = 1 := by
    decide +kernel
  have one : podsOf samplePair.store sampleJob =
      [Store.identified samplePod (sampleIdentities 0)] := by decide +kernel
  have other : podsOf samplePair.store secondJob =
      [Store.identified secondPod (sampleIdentities 1)] := by decide +kernel
  have apart : Store.Apart
      (planned samplePair.logs "x" sampleRequest sampleJob
        (Store.identified samplePod (sampleIdentities 0)))
      (planned samplePair.logs "x" secondRequest secondJob
        (Store.identified secondPod (sampleIdentities 1))) := by decide +kernel
  have calm : samplePair.Calm := calm_calm _ _ _
  have goesOn : ∀ c request job, (pairNext c request job).Calm := fun _ _ _ => calm_calm _ _ _
  obtain ⟨done, failed, still, still'⟩ := ran
  generalize samplePair = c at *
  obtain ⟨same, same', stores⟩ := completions_commute calm (goesOn c sampleRequest sampleJob) calm
    (goesOn c secondRequest secondJob) (.refl _) (.refl _) (.refl _) rfl rfl rfl one other still
    still' apart
  exact ⟨done, failed, same, same', stores⟩

end Completion

end PackageInstall
