import PackageInstall.Proofs.Repetition

namespace PackageInstall

def Object.bare (o : Object) : Object :=
  { o with metadata := { o.metadata with uid := "", creationTimestamp := none } }

namespace Store

def Entry.bare (e : Entry) : Entry := { e with object := e.object.bare }

structure Alike (s t : Store) : Prop where
  entries : s.entries.map Entry.bare = t.entries.map Entry.bare
  issued : s.issued = t.issued

variable {s t : Store} {identities identities' : Nat → Identity}

theorem Alike.refl (s : Store) : s.Alike s := ⟨rfl, rfl⟩

theorem Alike.places (alike : s.Alike t) : s.places = t.places := by
  have bared : ∀ u : Store, u.places = (u.entries.map Entry.bare).map Entry.place := by
    intro u
    rw [List.map_map]
    rfl
  rw [bared, bared, alike.entries]

theorem Alike.absorb (alike : s.Alike t) (o : Object) :
    (s.absorb identities o).Alike (t.absorb identities' o) := by
  by_cases nameless : o.name = ""
  · rwa [absorb_of_nameless nameless, absorb_of_nameless nameless]
  · by_cases taken : o.place ∈ s.places
    · rwa [absorb_of_taken taken, absorb_of_taken (alike.places ▸ taken)]
    · have free : o.place ∉ t.places := alike.places ▸ taken
      rw [absorb_of_free nameless taken, absorb_of_free nameless free]
      refine ⟨?_, congrArg (· + 1) alike.issued⟩
      simp only [List.map_append, alike.entries, alike.issued]
      rfl

theorem Alike.absorbAll (alike : s.Alike t) (os : List Object) :
    (s.absorbAll identities os).Alike (t.absorbAll identities' os) := by
  induction os generalizing s t with
  | nil => exact alike
  | cons o rest ih => exact ih (alike.absorb o)

theorem Alike.find? (alike : s.Alike t) (c : Coordinates) (k : ObjectKey) :
    (s.find? c k).map Object.bare = (t.find? c k).map Object.bare := by
  have bared : ∀ u : Store, (u.find? c k).map Object.bare =
      ((u.entries.map Entry.bare).find? fun e => e.isAt c k).map (·.object) := by
    intro u
    rw [List.find?_map, Option.map_map, Store.find?, Option.map_map]
    rfl
  rw [bared, bared, alike.entries]

theorem absorbAll_again {front : List Object} (named : ∀ o ∈ front, o.name ≠ "")
    (back : List Object) :
    (s.absorbAll identities front).absorbAll identities' (front ++ back) =
      (s.absorbAll identities front).absorbAll identities' back := by
  have there : ∀ o ∈ front, o.place ∈ (s.absorbAll identities front).places :=
    fun o member => place_mem_absorbAll member (named o member)
  rw [absorbAll_append, absorbAll_of_taken there]

theorem absorbAll_resumed {front os : List Object} (first : front <+: os)
    (named : ∀ o ∈ os, o.name ≠ "") (other : Nat → Identity) :
    ((s.absorbAll other front).absorbAll identities os).Alike (s.absorbAll identities' os) := by
  obtain ⟨back, rfl⟩ := first
  rw [absorbAll_again fun o member => named o (List.mem_append_left _ member), absorbAll_append]
  exact ((Alike.refl s).absorbAll front).absorbAll back

end Store

namespace Completion

open Cluster

def bareOutcome (r : Except InstallError InstallRequest) : Except InstallError InstallRequest :=
  r.map fun updated => { updated with
    status := ⟨updated.status.stackRecord.map fun reference => { reference with uid := "" }⟩ }

theorem bareOutcome_resolved {s t : Store} {last : Option Object}
    (same : ∀ o, last = some o → (s.find? o.coordinates (.ofObject o)).map Object.bare =
      (t.find? o.coordinates (.ofObject o)).map Object.bare)
    (request : InstallRequest) (job : Job) :
    bareOutcome (resolved request job s last) = bareOutcome (resolved request job t last) := by
  cases last with
  | none => rfl
  | some o =>
    replace same := same o rfl
    simp only [resolved]
    cases found : s.find? o.coordinates (.ofObject o) with
    | none =>
      rw [found] at same
      rw [Option.map_eq_none_iff.1 same.symm]
    | some stored =>
      rw [found] at same
      obtain ⟨stored', found', bare⟩ := Option.map_eq_some_iff.1 same.symm
      have reference : ({ referenceTo stored with uid := "" } : ObjectReference) =
          { referenceTo stored' with uid := "" } := by
        have version := congrArg Object.apiVersion bare
        have kind := congrArg Object.kind bare
        have metadata := congrArg Object.metadata bare
        simp only [Object.bare, Metadata.mk.injEq] at version kind metadata
        simp [referenceTo, Object.name, Object.namespaceName, version, kind, metadata]
      rw [found']
      show bareOutcome (.ok (request.withStackRecord (referenceTo stored))) =
        bareOutcome (.ok (request.withStackRecord (referenceTo stored')))
      simp only [bareOutcome, Except.map, InstallRequest.withStackRecord, Option.map_some,
        reference]

theorem bareOutcome_outcome {s t : Store} {w : Walk}
    (same : ∀ o ∈ w.objects, (s.find? o.coordinates (.ofObject o)).map Object.bare =
      (t.find? o.coordinates (.ofObject o)).map Object.bare)
    (request : InstallRequest) (job : Job) :
    bareOutcome (w.outcome request job s) = bareOutcome (w.outcome request job t) := by
  unfold Walk.outcome
  cases w.halt.error? job.metadata.name with
  | some e => rfl
  | none =>
    refine bareOutcome_resolved (fun o isLast => same o ?_) request job
    exact (List.mem_filter.1 (List.mem_of_getLast? isLast)).1

theorem outputIn_of_read {c : Cluster} {b : LogBook} (bodies : b.bodies = c.logs.bodies)
    (unbroken : b.interruptAfter = none) {key : ObjectKey} {output : List UInt8}
    (read : outputReply c key = .ok output) : outputIn b key = .ok output := by
  have same : b.body key = c.logs.body key := by rw [LogBook.body, LogBook.body, bodies]
  simp [outputIn, same, body_of_outputReply read, LogBook.deliver, unbroken]

/-- Whatever calls failed, the first objects of the walk over the output are stored, and none unless
the pod of the job was found and its output read. -/
theorem store_of_interrupted {c : Cluster} (truthful : c.Truthful) (rolePrefix : String)
    (request : InstallRequest) (job : Job) :
    ∃ done, (c.run (complete rolePrefix request job)).2.store =
        c.store.absorbAll c.identities done ∧
      (done = [] ∨ ∃ pod output, podsOf c.store job = [pod] ∧
        outputReply (calling c [podCall job]) ⟨job.metadata.namespaceName, pod.name⟩ = .ok output ∧
        done <+: (walk rolePrefix request (Documents.decode output)).objects) := by
  rcases complete_cases c rolePrefix request job with
    ⟨-, store⟩ | ⟨pod, output, one, read, -, store⟩
  · exact ⟨[], store, .inl rfl⟩
  · let begun := calling c (readingCalls c job ⟨job.metadata.namespaceName, pod.name⟩)
    have begins : begun.Truthful := truthful
    obtain ⟨done, first, stored⟩ :=
      begins.afterAgenda_store (outputActs rolePrefix request job output)
    rw [outputActs, plan_agenda] at first
    exact ⟨done, store.trans stored, .inr ⟨pod, output, one, read, first⟩⟩

theorem eq_of_podsOf {s t : Store} (grown : s.entries <+: t.entries) {job : Job}
    {pod pod' : Object} (before : podsOf s job = [pod]) (now : podsOf t job = [pod']) :
    pod = pod' := by
  have pods : podsOf t job = podsOf s job ++ podsOf (t.since s) job := Store.list_since grown _ _ _
  rw [before, now] at pods
  simp only [List.singleton_append, List.cons.injEq] at pods
  exact pods.1.symm

structure Mends (b b' : LogBook) : Prop where
  bodies : b'.bodies = b.bodies
  unbroken : b'.interruptAfter = none

theorem Mends.outputIn_eq {b b' b'' : LogBook} (mends : Mends b b') (mends' : Mends b b'')
    (key : ObjectKey) : outputIn b' key = outputIn b'' key :=
  outputIn_of_agrees ⟨mends.bodies.trans mends'.bodies.symm, mends.unbroken.trans
    mends'.unbroken.symm⟩ key

theorem podsOf_of_interrupted {c : Cluster} (truthful : c.Truthful) {rolePrefix : String}
    {request : InstallRequest} {job : Job} {pod : Object}
    (one : podsOf (c.run (complete rolePrefix request job)).2.store job = [pod]) :
    podsOf c.store job = [pod] := by
  obtain ⟨done, left, reached⟩ := store_of_interrupted truthful rolePrefix request job
  rw [left] at one
  rcases reached with rfl | ⟨pod', output, before, -, -⟩
  · exact one
  · rw [before, eq_of_podsOf (Store.entries_prefix_absorbAll _ done) before one]

theorem done_of_interrupted {c : Cluster} (truthful : c.Truthful) (rolePrefix : String)
    (request : InstallRequest) {job : Job} {pod : Object} (one : podsOf c.store job = [pod])
    {b : LogBook} (mends : Mends c.logs b) :
    ∃ done, (c.run (complete rolePrefix request job)).2.store =
        c.store.absorbAll c.identities done ∧
      match outputIn b ⟨job.metadata.namespaceName, pod.name⟩ with
      | .error _ => done = []
      | .ok output => done <+: (walk rolePrefix request (Documents.decode output)).objects := by
  obtain ⟨done, left, reached⟩ := store_of_interrupted truthful rolePrefix request job
  refine ⟨done, left, ?_⟩
  rcases reached with rfl | ⟨pod', output, other, read, first⟩
  · cases outputIn b ⟨job.metadata.namespaceName, pod.name⟩ with
    | error e => rfl
    | ok output => exact List.nil_prefix
  · rw [one] at other
    cases other
    rw [outputIn_of_read (c := calling c [podCall job]) mends.bodies mends.unbroken read]
    exact first

def pairOutput : String :=
  "apiVersion: v1\nkind: ConfigMap\nmetadata:\n  name: q\n" ++ "---\n" ++ sampleOutput

/-- A cluster where the fifth call fails, which creates the record. The fourth has created the object
before it. -/
def sampleFaulty : Cluster :=
  { sampleCluster pairOutput with
    faults := fun n _ => if n = 4 then some (.fails (.storage "down")) else none }

theorem sampleFaulty_truthful : sampleFaulty.Truthful := by
  intro n call e fault
  change (if n = 4 then some (Fault.fails (.storage "down")) else none) = some (.fails e) at fault
  split at fault
  · cases fault
    rfl
  · cases fault

/-- After a completion that went wrong in any way, a completion that goes undisturbed ends as it
would have ended in the first place, as long as it finds one pod of the job. -/
theorem retry_converges {c d f : Cluster} (truthful : c.Truthful) (calm : d.Calm) (calm' : f.Calm)
    (mends : Mends c.logs d.logs) (mends' : Mends c.logs f.logs) {rolePrefix : String}
    {request : InstallRequest} {job : Job} (start : f.store = c.store)
    (continued : d.store = (c.run (complete rolePrefix request job)).2.store)
    (found : (podsOf d.store job).length = 1) :
    let retried := d.run (complete rolePrefix request job)
    let fresh := f.run (complete rolePrefix request job)
    bareOutcome retried.1 = bareOutcome fresh.1 ∧ retried.2.store.Alike fresh.2.store ∧
      c.store.entries <+: retried.2.store.entries ∧ c.store.entries <+: fresh.2.store.entries := by
  intro retried fresh
  obtain ⟨pod, one⟩ := List.length_eq_one_iff.1 found
  have first : podsOf c.store job = [pod] := podsOf_of_interrupted truthful (continued ▸ one)
  have one' : podsOf f.store job = [pod] := by rw [start, first]
  obtain ⟨done, left, reached⟩ :=
    done_of_interrupted truthful rolePrefix request first mends'
  rw [left] at continued
  have reads : outputIn d.logs ⟨job.metadata.namespaceName, pod.name⟩ =
    outputIn f.logs ⟨job.metadata.namespaceName, pod.name⟩ := mends.outputIn_eq mends' _
  cases written : outputIn f.logs ⟨job.metadata.namespaceName, pod.name⟩ with
  | error e =>
    simp only [written] at reached
    subst reached
    obtain ⟨store, outcome⟩ := calm_complete_unread calm rolePrefix request one
      (reads.trans written)
    obtain ⟨store', outcome'⟩ := calm_complete_unread calm' rolePrefix request one' written
    have stays : retried.2.store = c.store := store.trans continued
    have stays' : fresh.2.store = c.store := store'.trans start
    rw [stays, stays']
    exact ⟨congrArg bareOutcome (outcome.trans outcome'.symm), .refl _, List.prefix_rfl,
      List.prefix_rfl⟩
  | ok output =>
    simp only [written] at reached
    obtain ⟨store, outcome⟩ := calm_complete calm rolePrefix request one (reads.trans written)
    obtain ⟨store', outcome'⟩ := calm_complete calm' rolePrefix request one' written
    have alike : retried.2.store.Alike fresh.2.store := by
      simp only [retried, fresh]
      rw [store, store', continued, start]
      exact Store.absorbAll_resumed reached (fun o member => name_ne_of_mem_walk member) _
    refine ⟨?_, alike, ?_, ?_⟩
    · simp only [retried, fresh]
      rw [outcome, outcome']
      exact bareOutcome_outcome (fun o _ => alike.find? o.coordinates (.ofObject o)) request job
    · simp only [retried, store, continued]
      exact (Store.entries_prefix_absorbAll _ _).trans (Store.entries_prefix_absorbAll _ _)
    · simp only [fresh, store', start]
      exact Store.entries_prefix_absorbAll _ _

theorem retry_converges_sample :
    (sampleFaulty.run (complete "x" sampleRequest sampleJob)).1.isOk = false ∧
    (sampleNext sampleFaulty).store.objects.map (·.name) =
      sampleStore.objects.map (·.name) ++ ["q"] ∧
    ((sampleCluster pairOutput).run
      (complete "x" sampleRequest sampleJob)).2.store.objects.map (·.name) =
      sampleStore.objects.map (·.name) ++ ["q", sampleRequest.name] ∧
    (podsOf (sampleNext sampleFaulty).store sampleJob).length = 1 ∧
    bareOutcome ((sampleNext sampleFaulty).run (complete "x" sampleRequest sampleJob)).1 =
      bareOutcome ((sampleCluster pairOutput).run (complete "x" sampleRequest sampleJob)).1 ∧
    ((sampleNext sampleFaulty).run (complete "x" sampleRequest sampleJob)).2.store.Alike
      ((sampleCluster pairOutput).run (complete "x" sampleRequest sampleJob)).2.store := by
  have ran : (sampleFaulty.run (complete "x" sampleRequest sampleJob)).1.isOk = false ∧
      (sampleNext sampleFaulty).store.objects.map (·.name) =
        sampleStore.objects.map (·.name) ++ ["q"] ∧
      ((sampleCluster pairOutput).run
        (complete "x" sampleRequest sampleJob)).2.store.objects.map (·.name) =
        sampleStore.objects.map (·.name) ++ ["q", sampleRequest.name] ∧
      (podsOf (sampleNext sampleFaulty).store sampleJob).length = 1 := by decide +kernel
  obtain ⟨failed, half, whole, found⟩ := ran
  have truthful := sampleFaulty_truthful
  have calm : (sampleCluster pairOutput).Calm := calm_calm _ _ _
  have start : (sampleCluster pairOutput).store = sampleFaulty.store := rfl
  have mends : Mends sampleFaulty.logs (sampleNext sampleFaulty).logs := ⟨rfl, rfl⟩
  have mends' : Mends sampleFaulty.logs (sampleCluster pairOutput).logs := ⟨rfl, rfl⟩
  generalize sampleFaulty = c at *
  generalize sampleCluster pairOutput = f at *
  obtain ⟨outcome, alike, -, -⟩ :=
    retry_converges truthful (sampleNext_calm c) calm mends mends' start rfl found
  exact ⟨failed, half, whole, found, outcome, alike⟩

end Completion

end PackageInstall
