import PackageInstall.Proofs.Completion

namespace PackageInstall.Completion

open Cluster

def podCall (job : Job) : Call :=
  .list Pod.coordinates (some job.metadata.namespaceName) (podSelector job)

def podsOf (s : Store) (job : Job) : List Object :=
  s.list Pod.coordinates (some job.metadata.namespaceName) (podSelector job)

def podReply (c : Cluster) (job : Job) : Except InstallError String :=
  match c.failure? (podCall job), podsOf c.store job with
  | some e, _ => .error (.listPods job.metadata.name e)
  | none, [pod] => .ok pod.name
  | none, pods => .error (.podCount job.metadata.name pods.length)

theorem run_podOf (c : Cluster) (job : Job) :
    c.run (podOf job) = (podReply c job, c.entered (podCall job)) := by
  have listed := run_list c Pod.coordinates (some job.metadata.namespaceName) (podSelector job)
  unfold podOf podReply podsOf podCall
  rw [run_bind, run_named, listed]
  cases c.failure? _ with
  | some e => rfl
  | none =>
    rcases c.store.list _ _ _ with _ | ⟨pod, _ | ⟨other, rest⟩⟩ <;> rfl

def outputCalls (c : Cluster) (key : ObjectKey) : List Call :=
  match c.openReply key with
  | .error _ => [.openLog key]
  | .ok _ => [.openLog key, .readLog key]

def outputReply (c : Cluster) (key : ObjectKey) : Except InstallError (List UInt8) :=
  match c.openReply key with
  | .error e => .error (.openLogs key.name e)
  | .ok body => ((c.entered (.openLog key)).readReply key body).mapError (.copyLogs key.name)

def calling (c : Cluster) (calls : List Call) : Cluster := { c with journal := c.journal ++ calls }

theorem readReply_of_agrees {c : Cluster} {logs : LogBook} (same : c.logs.Agrees logs)
    (key : ObjectKey) (body : List UInt8) :
    ({ c with logs := logs } : Cluster).readReply key body = c.readReply key body := by
  simp only [readReply, same.deliver]

theorem run_outputOf (c : Cluster) (key : ObjectKey) :
    ∃ logs, c.logs.Agrees logs ∧
      c.run (outputOf key) =
        (outputReply c key, { calling c (outputCalls c key) with logs := logs }) := by
  obtain ⟨logs, same, opened⟩ := run_openLog c key
  unfold outputOf outputReply outputCalls
  rw [run_bind, run_named, opened]
  cases c.openReply key with
  | error e => exact ⟨logs, same, rfl⟩
  | ok body =>
    let d : Cluster := { c.entered (.openLog key) with logs := logs }
    obtain ⟨logs', same', read⟩ := run_readLog d key body
    have reply : d.readReply key body = (c.entered (.openLog key)).readReply key body :=
      readReply_of_agrees (c := c.entered (.openLog key)) same key body
    refine ⟨logs', same.trans same', ?_⟩
    show d.run (named (InstallError.copyLogs key.name) (readLog key body)) = _
    rw [run_named, read, reply]
    simp [d, entered, calling, List.append_assoc]

theorem body_of_openReply {c : Cluster} {key : ObjectKey} {body : List UInt8}
    (opened : c.openReply key = .ok body) : c.logs.body key = .ok body := by
  unfold openReply at opened
  split at opened
  · cases opened
  · exact opened

theorem eq_of_deliver {b : LogBook} {body bytes : List UInt8}
    (delivered : b.deliver body = (bytes, none)) : bytes = body := by
  unfold LogBook.deliver at delivered
  split at delivered
  · cases delivered
    rfl
  · split at delivered
    · cases delivered
      rfl
    · cases delivered

theorem eq_of_readReply {c : Cluster} {key : ObjectKey} {body output : List UInt8}
    (read : c.readReply key body = .ok output) : output = body := by
  unfold readReply at read
  split at read
  · cases read
  · split at read
    · rename_i delivered
      cases read
      exact eq_of_deliver delivered
    · cases read

theorem body_of_outputReply {c : Cluster} {key : ObjectKey} {output : List UInt8}
    (read : outputReply c key = .ok output) : c.logs.body key = .ok output := by
  unfold outputReply at read
  cases opened : c.openReply key with
  | error e => simp [opened] at read
  | ok body =>
    simp only [opened] at read
    cases answer : (c.entered (.openLog key)).readReply key body with
    | error e =>
      rw [answer] at read
      cases read
    | ok bytes =>
      rw [answer] at read
      cases read
      rw [eq_of_readReply answer, body_of_openReply opened]

structure Course where
  calls : List Call
  outcome : Except InstallError InstallRequest
  store : Store

/-- The request that points at the last stack record, as it is stored. -/
def resolved (request : InstallRequest) (job : Job) (s : Store) (last : Option Object) :
    Except InstallError InstallRequest :=
  match last with
  | none => .error (.missingStackRecord job.metadata.name)
  | some o =>
    match s.find? o.coordinates (.ofObject o) with
    | none => .error (.fetchStackRecord (.ofObject o) job.metadata.name
        (.notFound o.coordinates.kind (.ofObject o)))
    | some stored =>
      let reference : ObjectReference := ⟨stored.apiVersion, stored.kind, stored.name,
        stored.namespaceName, stored.metadata.uid⟩
      .ok { request with status := { request.status with stackRecord := some reference } }

def agendaOutcome (c : Cluster) (request : InstallRequest) (job : Job) (acts : Agenda) :
    Except InstallError InstallRequest :=
  match c.agendaError? acts with
  | some e => .error e
  | none => resolved request job (c.afterAgenda acts).store (lastFetched acts)

def readingCalls (c : Cluster) (job : Job) (key : ObjectKey) : List Call :=
  podCall job :: outputCalls (calling c [podCall job]) key

def outputActs (rolePrefix : String) (request : InstallRequest) (job : Job)
    (output : List UInt8) : Agenda :=
  agenda rolePrefix request job.metadata.name (Documents.decode output)

/-- The pods of the job are listed, the output of the only one is opened and read, and what is to
be done about its items is done, all up to the first failure. -/
def course (c : Cluster) (rolePrefix : String) (request : InstallRequest) (job : Job) : Course :=
  match podReply c job with
  | .error e => ⟨[podCall job], .error e, c.store⟩
  | .ok pod =>
    let key : ObjectKey := ⟨job.metadata.namespaceName, pod⟩
    let reading := readingCalls c job key
    match outputReply (calling c [podCall job]) key with
    | .error e => ⟨reading, .error e, c.store⟩
    | .ok output =>
      let acts := outputActs rolePrefix request job output
      let begun := calling c reading
      ⟨reading ++ (begun.performed acts).filterMap Act.call?,
        agendaOutcome begun request job acts, (begun.afterAgenda acts).store⟩

theorem resolved_of_none {s : Store} {acts : Agenda} (told : Tells s acts none none)
    (request : InstallRequest) (job : Job) :
    resolved request job s (lastFetched acts) =
      .error (.missingStackRecord job.metadata.name) := by
  unfold resolved
  cases last : lastFetched acts with
  | none => rfl
  | some o =>
    obtain ⟨stored, same, -⟩ := told.fetched o last
    cases same

theorem resolved_of_some {s : Store} {acts : Agenda} {stored : Object}
    (told : Tells s acts none (some stored)) (request : InstallRequest) (job : Job) :
    resolved request job s (lastFetched acts) =
      .ok (request.withStackRecord (referenceTo stored)) := by
  unfold resolved
  cases last : lastFetched acts with
  | none => cases told.unfetched last
  | some o =>
    obtain ⟨stored', same, found⟩ := told.fetched o last
    cases same
    simp only [found]
    rfl

theorem agendaOutcome_inert {f : Cluster → Cluster} (inert : Inert f) (c : Cluster)
    (request : InstallRequest) (job : Job) (acts : Agenda) :
    agendaOutcome (f c) request job acts = agendaOutcome c request job acts := by
  simp only [agendaOutcome, inert.agendaError?, inert.afterAgenda, inert.store]

theorem run_createAll_outcome (c : Cluster) (rolePrefix : String) (request : InstallRequest)
    (job : Job) (items : List Documents.Item) :
    let acts := agenda rolePrefix request job.metadata.name items
    ∃ notes, c.run (do
      match ← createAll rolePrefix request job.metadata.name items none with
      | none => throw (.missingStackRecord job.metadata.name)
      | some record =>
        note (.recordResolved record.name record.namespaceName)
        return request.withStackRecord (referenceTo record)) =
      (agendaOutcome c request job acts, (c.afterAgenda acts).noting notes) := by
  intro acts
  obtain ⟨⟨notes, left⟩, answer⟩ :=
    performs_createAll c rolePrefix request job.metadata.name items none
  unfold agendaOutcome
  rw [run_bind]
  cases failed : c.agendaError? acts with
  | some e =>
    simp only [failed, acts] at answer
    have stopped : c.run (createAll rolePrefix request job.metadata.name items none) =
      (.error e, (c.afterAgenda acts).noting notes) := Prod.ext answer left
    exact ⟨notes, by rw [stopped]⟩
  | none =>
    simp only [failed, acts] at answer
    obtain ⟨record, told, answer⟩ := answer
    have passed : c.run (createAll rolePrefix request job.metadata.name items none) =
      (.ok record, (c.afterAgenda acts).noting notes) := Prod.ext answer left
    simp only [passed]
    cases record with
    | none =>
      simp only [acts, resolved_of_none told]
      exact ⟨notes, rfl⟩
    | some stored =>
      simp only [acts, resolved_of_some told]
      exact ⟨_, congrArg (Prod.mk _) (noting_noting _ notes _)⟩

theorem run_complete (c : Cluster) (rolePrefix : String) (request : InstallRequest) (job : Job) :
    let result := c.run (complete rolePrefix request job)
    let taken := course c rolePrefix request job
    result.1 = taken.outcome ∧ result.2.journal = c.journal ++ taken.calls ∧
      result.2.store = taken.store := by
  intro result taken
  let opening : List Note :=
    [.completing job.metadata.name job.metadata.namespaceName request.name]
  let d := c.noting opening
  have found := run_podOf d job
  have same : podReply d job = podReply c job := rfl
  have unfolded : result = d.run (do
    let pod ← podOf job
    let output ← outputOf ⟨job.metadata.namespaceName, pod⟩
    match ← createAll rolePrefix request job.metadata.name (Documents.decode output) none with
    | none => throw (.missingStackRecord job.metadata.name)
    | some record =>
      note (.recordResolved record.name record.namespaceName)
      return request.withStackRecord (referenceTo record)) := rfl
  simp only [taken]
  unfold course
  rw [unfolded, run_bind, found, same]
  cases podReply c job with
  | error e => exact ⟨rfl, rfl, rfl⟩
  | ok pod =>
    let key : ObjectKey := ⟨job.metadata.namespaceName, pod⟩
    obtain ⟨logs, agrees, read⟩ := run_outputOf (d.entered (podCall job)) key
    have reply : outputReply (d.entered (podCall job)) key =
      outputReply (calling c [podCall job]) key := rfl
    let begun := calling c (readingCalls c job key)
    have left : ({ calling (d.entered (podCall job))
        (outputCalls (d.entered (podCall job)) key) with logs := logs } : Cluster) =
        { begun.noting opening with logs := logs } := by
      have calls : outputCalls (d.entered (podCall job)) key =
        outputCalls (calling c [podCall job]) key := rfl
      rw [calls]
      simp [begun, readingCalls, calling, entered, noting, d]
    simp only []
    rw [run_bind, read, reply, left]
    cases outputReply (calling c [podCall job]) key with
    | error e => exact ⟨rfl, rfl, rfl⟩
    | ok output =>
      have inert := (inert_logs logs).comp (inert_noting opening)
      obtain ⟨notes, run⟩ := run_createAll_outcome { begun.noting opening with logs := logs }
        rolePrefix request job (Documents.decode output)
      rw [agendaOutcome_inert inert begun, inert.afterAgenda begun] at run
      simp only []
      rw [run]
      refine ⟨rfl, ?_, rfl⟩
      exact (afterAgenda_journal begun _).trans (List.append_assoc _ _ _)

theorem podsOf_of_podReply {c : Cluster} {job : Job} {name : String}
    (found : podReply c job = .ok name) : ∃ pod, podsOf c.store job = [pod] ∧ pod.name = name := by
  unfold podReply at found
  split at found
  · cases found
  · rename_i pod _ one
    cases found
    exact ⟨pod, one, rfl⟩
  · cases found

theorem complete_cases (c : Cluster) (rolePrefix : String) (request : InstallRequest) (job : Job) :
    let result := c.run (complete rolePrefix request job)
    ((∃ e, result.1 = .error e) ∧ result.2.store = c.store) ∨
      ∃ pod output, podsOf c.store job = [pod] ∧
        outputReply (calling c [podCall job]) ⟨job.metadata.namespaceName, pod.name⟩ =
          .ok output ∧
        let begun := calling c (readingCalls c job ⟨job.metadata.namespaceName, pod.name⟩)
        let acts := outputActs rolePrefix request job output
        result.1 = agendaOutcome begun request job acts ∧
          result.2.store = (begun.afterAgenda acts).store := by
  intro result
  obtain ⟨outcome, -, store⟩ := run_complete c rolePrefix request job
  unfold course at outcome store
  cases found : podReply c job with
  | error e =>
    simp only [found] at outcome store
    exact .inl ⟨⟨e, outcome⟩, store⟩
  | ok name =>
    obtain ⟨pod, one, rfl⟩ := podsOf_of_podReply found
    simp only [found] at outcome store
    cases read : outputReply (calling c [podCall job]) ⟨job.metadata.namespaceName, pod.name⟩ with
    | error e =>
      simp only [read] at outcome store
      exact .inl ⟨⟨e, outcome⟩, store⟩
    | ok output =>
      simp only [read] at outcome store
      exact .inr ⟨pod, output, one, read, outcome, store⟩

theorem podReply_of_fails {c : Cluster} {job : Job}
    (fails : c.Fails c.journal.length (podCall job)) : ∃ e, podReply c job = .error e := by
  obtain ⟨e, fault⟩ := fails
  have failure : c.failure? (podCall job) = some e := by
    simp [failure?, fault]
  exact ⟨_, by rw [podReply, failure]⟩

theorem openReply_of_fails {c : Cluster} {key : ObjectKey}
    (fails : c.Fails c.journal.length (.openLog key)) : ∃ e, c.openReply key = .error e := by
  obtain ⟨e, fault⟩ := fails
  exact ⟨e, by rw [openReply, fault]⟩

theorem readReply_of_fails {c : Cluster} {key : ObjectKey} (body : List UInt8)
    (fails : c.Fails c.journal.length (.readLog key)) : ∃ e, c.readReply key body = .error e := by
  obtain ⟨e, fault⟩ := fails
  exact ⟨e, by rw [readReply, fault]⟩

/-- Whether a call that is made to fail is the last of those that were made since a cluster, and the
outcome then an error. -/
def StopsAtFailure (c after : Cluster) (outcome : Except InstallError InstallRequest) : Prop :=
  ∀ n call, c.journal.length ≤ n → after.journal[n]? = some call → c.Fails n call →
    n + 1 = after.journal.length ∧ ∃ e, outcome = .error e

theorem outputReply_of_fails {c : Cluster} {key : ObjectKey} {i : Nat} {call : Call}
    (made : (outputCalls c key)[i]? = some call) (fails : c.Fails (c.journal.length + i) call) :
    i + 1 = (outputCalls c key).length ∧ ∃ e, outputReply c key = .error e := by
  unfold outputCalls at made ⊢
  unfold outputReply
  cases opened : c.openReply key with
  | error e =>
    simp only [opened] at made ⊢
    rcases i with _ | i
    · exact ⟨rfl, _, rfl⟩
    · cases made
  | ok body =>
    simp only [opened] at made ⊢
    rcases i with _ | _ | i
    · cases made
      obtain ⟨e, closed⟩ := openReply_of_fails fails
      rw [closed] at opened
      cases opened
    · cases made
      have length : (c.entered (.openLog key)).journal.length = c.journal.length + 1 := by
        simp [entered]
      have later : (c.entered (.openLog key)).Fails (c.entered (.openLog key)).journal.length
          (.readLog key) := by
        rw [length]
        exact fails
      obtain ⟨e, broken⟩ := readReply_of_fails body later
      exact ⟨rfl, _, by rw [broken]; rfl⟩
    · cases made

theorem readingCalls_fail {c : Cluster} {job : Job} {pod : String}
    (found : podReply c job = .ok pod) {i : Nat} {call : Call}
    (made : (readingCalls c job ⟨job.metadata.namespaceName, pod⟩)[i]? = some call)
    (fails : c.Fails (c.journal.length + i) call) :
    i + 1 = (readingCalls c job ⟨job.metadata.namespaceName, pod⟩).length ∧
      ∃ e, outputReply (calling c [podCall job]) ⟨job.metadata.namespaceName, pod⟩ = .error e := by
  rcases i with _ | i
  · cases made
    obtain ⟨e, broken⟩ := podReply_of_fails fails
    rw [broken] at found
    cases found
  · have length : (calling c [podCall job]).journal.length = c.journal.length + 1 := by
      simp [calling]
    have later : (calling c [podCall job]).Fails ((calling c [podCall job]).journal.length + i)
        call := by
      rw [length, Nat.add_assoc, Nat.add_comm 1]
      exact fails
    obtain ⟨last, broken⟩ := outputReply_of_fails made later
    exact ⟨congrArg (· + 1) last, broken⟩

theorem stopsAtFailure_complete (c : Cluster) (rolePrefix : String) (request : InstallRequest)
    (job : Job) :
    StopsAtFailure c (c.run (complete rolePrefix request job)).2
      (c.run (complete rolePrefix request job)).1 := by
  obtain ⟨outcome, journal, -⟩ := run_complete c rolePrefix request job
  intro n call late made fails
  obtain ⟨i, rfl⟩ := Nat.exists_eq_add_of_le late
  rw [journal, List.getElem?_append_right late, Nat.add_sub_cancel_left] at made
  rw [journal, List.length_append, outcome, Nat.add_assoc, Nat.add_left_cancel_iff]
  unfold course at made ⊢
  cases found : podReply c job with
  | error e =>
    simp only [found] at made ⊢
    rcases i with _ | i
    · exact ⟨rfl, e, rfl⟩
    · cases made
  | ok pod =>
    simp only [found] at made ⊢
    cases read : outputReply (calling c [podCall job]) ⟨job.metadata.namespaceName, pod⟩ with
    | error e =>
      simp only [read] at made ⊢
      exact ⟨(readingCalls_fail found made fails).1, e, rfl⟩
    | ok output =>
      simp only [read] at made ⊢
      let reading := readingCalls c job ⟨job.metadata.namespaceName, pod⟩
      by_cases early : i < reading.length
      · rw [List.getElem?_append_left early] at made
        obtain ⟨-, e, broken⟩ := readingCalls_fail found made fails
        rw [broken] at read
        cases read
      · let begun := calling c reading
        let acts := outputActs rolePrefix request job output
        have journal : (begun.afterAgenda acts).journal =
            c.journal ++ (reading ++ (begun.performed acts).filterMap Act.call?) := by
          rw [afterAgenda_journal, ← List.append_assoc]
          rfl
        have begins : begun.journal.length ≤ c.journal.length + i := by
          simp only [begun, calling, List.length_append]
          omega
        have made' : (begun.afterAgenda acts).journal[c.journal.length + i]? = some call := by
          rw [journal, List.getElem?_append_right late, Nat.add_sub_cancel_left]
          exact made
        obtain ⟨last, failed⟩ := fails_last begins made' fails
        obtain ⟨e, failed⟩ := Option.ne_none_iff_exists'.1 failed
        rw [journal, List.length_append, Nat.add_assoc, Nat.add_left_cancel_iff] at last
        refine ⟨last, e, ?_⟩
        simp only [begun, acts, reading] at failed
        rw [agendaOutcome, failed]

/-- On every cluster a completion takes its course, and a call that is made to fail is its last. What
there is to do about an output is prescribed by what is made of its documents. -/
theorem complete_takes_course (c : Cluster) (rolePrefix : String) (request : InstallRequest)
    (job : Job) :
    let result := c.run (complete rolePrefix request job)
    let taken := course c rolePrefix request job
    result.1 = taken.outcome ∧ result.2.journal = c.journal ++ taken.calls ∧
      result.2.store = taken.store ∧ StopsAtFailure c result.2 result.1 ∧
      ∀ output, Prescribed rolePrefix request job.metadata.name (Documents.decode output)
        (outputActs rolePrefix request job output) := by
  intro result taken
  obtain ⟨outcome, journal, store⟩ := run_complete c rolePrefix request job
  exact ⟨outcome, journal, store, stopsAtFailure_complete c rolePrefix request job,
    fun output => prescribed_agenda rolePrefix request job.metadata.name (Documents.decode output)⟩

end PackageInstall.Completion
