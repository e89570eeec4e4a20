import PackageInstall.Proofs.Course
import PackageInstall.Proofs.Plan

namespace PackageInstall.Completion

open Cluster

inductive Halt where
  | atEnd
  | atFault (error : DecodeError)
  | atNameless (o : Object)
  deriving DecidableEq

structure Walk where
  objects : List Object
  halt : Halt

def rolesBefore (rolePrefix : String) (request : InstallRequest) (o : Object) : List Object :=
  if o.IsSchemaDefinition then Persona.roleObjects request rolePrefix else []

/-- The walk over the items of a stream, up to the first fault or object without a name. -/
def walk (rolePrefix : String) (request : InstallRequest) : List Documents.Item → Walk
  | [] => ⟨[], .atEnd⟩
  | .error e :: _ => ⟨[], .atFault e⟩
  | .ok none :: rest => walk rolePrefix request rest
  | .ok (some document) :: rest =>
    let o := materialized request document
    let roles := rolesBefore rolePrefix request o
    if o.name = "" then ⟨roles, .atNameless o⟩
    else
      let later := walk rolePrefix request rest
      ⟨roles ++ o :: later.objects, later.halt⟩

/-- What there is to collect from the items of a stream, told by what is made of its documents. -/
inductive Collected (rolePrefix : String) (request : InstallRequest) :
    List Documents.Item → List Object → Halt → Prop where
  | nil : Collected rolePrefix request [] [] .atEnd
  | fault {e : DecodeError} {rest : List Documents.Item} :
      Collected rolePrefix request (.error e :: rest) [] (.atFault e)
  | empty {rest : List Documents.Item} {objects : List Object} {halt : Halt}
      (later : Collected rolePrefix request rest objects halt) :
      Collected rolePrefix request (.ok none :: rest) objects halt
  | nameless {document o : Object} {rest : List Documents.Item}
      (made : MadeOf request document o) (unnamed : o.name = "") :
      Collected rolePrefix request (.ok (some document) :: rest)
        (rolesBefore rolePrefix request document) (.atNameless o)
  | document {document o : Object} {rest : List Documents.Item} {objects : List Object}
      {halt : Halt} (made : MadeOf request document o) (named : o.name ≠ "")
      (later : Collected rolePrefix request rest objects halt) :
      Collected rolePrefix request (.ok (some document) :: rest)
        (rolesBefore rolePrefix request document ++ o :: objects) halt

theorem rolesBefore_materialized (rolePrefix : String) (request : InstallRequest)
    (document : Object) : rolesBefore rolePrefix request (materialized request document) =
      rolesBefore rolePrefix request document := by
  simp only [rolesBefore, isSchemaDefinition_materialized]

theorem collected_walk (rolePrefix : String) (request : InstallRequest)
    (items : List Documents.Item) :
    Collected rolePrefix request items (walk rolePrefix request items).objects
      (walk rolePrefix request items).halt := by
  induction items with
  | nil => exact .nil
  | cons item rest ih =>
    rcases item with e | _ | document
    · exact .fault
    · exact .empty ih
    · have made := madeOf_materialized request document
      rw [walk]
      simp only [rolesBefore_materialized]
      split
      · next unnamed => exact .nameless made unnamed
      · next named => exact .document made named ih

def Halt.error? (job : String) : Halt → Option InstallError
  | atEnd => none
  | atFault e => some (.decode job e)
  | atNameless o => some (.createObject "" job (.invalid (o.kind ++ " object has no name")))

def Walk.records (w : Walk) : List Object := w.objects.filter fun o => decide o.IsStackRecord

theorem plan_roleActs (told : String × StoreError → InstallError) {request : InstallRequest}
    {rolePrefix : String} {roles : List Object}
    (known : ∀ r ∈ roles, r ∈ Persona.roleObjects request rolePrefix) :
    (roleActs told roles).plan = (roles, none) := by
  induction roles with
  | nil => rfl
  | cons r rest ih =>
    have later := ih fun r' member => known r' (List.mem_cons_of_mem _ member)
    have named : r.name ≠ "" := Persona.name_ne_of_mem (known r List.mem_cons_self)
    simp only [roleActs] at later
    simp only [roleActs, List.map_cons, Agenda.plan, if_neg named, later]

theorem plan_creationActs (rolePrefix : String) (request : InstallRequest) (job : String)
    (o : Object) :
    (creationActs rolePrefix request job o).plan =
      if o.name = "" then
        (rolesBefore rolePrefix request o, some (.createObject "" job (Act.namelessError o)))
      else (rolesBefore rolePrefix request o ++ [o], none) := by
  have object : Agenda.plan [.create o (.createObject o.name job)] =
      if o.name = "" then ([], some (.createObject "" job (Act.namelessError o)))
      else ([o], none) := by
    simp only [Agenda.plan]
    split
    · rename_i nameless
      rw [nameless]
    · rfl
  unfold creationActs rolesBefore
  by_cases schema : o.IsSchemaDefinition
  · simp only [if_pos schema, Agenda.plan_append, plan_roleActs _ fun _ member => member, object]
    split <;> simp
  · simp only [if_neg schema, List.nil_append, object]

theorem plan_agenda (rolePrefix : String) (request : InstallRequest) (job : String)
    (items : List Documents.Item) :
    (agenda rolePrefix request job items).plan =
      ((walk rolePrefix request items).objects,
        (walk rolePrefix request items).halt.error? job) := by
  induction items with
  | nil => rfl
  | cons item rest ih =>
    rcases item with e | _ | document
    · rfl
    · exact ih
    · let o := materialized request document
      have fetches : ∀ acts : Agenda,
          Agenda.plan ((if o.IsStackRecord then [fetchAct job o] else []) ++ acts) = acts.plan := by
        intro acts
        split <;> rfl
      have acts : agenda rolePrefix request job (.ok (some document) :: rest) =
          creationActs rolePrefix request job o ++
            ((if o.IsStackRecord then [fetchAct job o] else []) ++
              agenda rolePrefix request job rest) :=
        List.append_assoc _ _ _
      rw [acts, Agenda.plan_append, fetches, plan_creationActs, ih, walk]
      by_cases nameless : o.name = ""
      · simp only [if_pos nameless, o] at nameless ⊢
        rfl
      · simp only [if_neg nameless, o] at nameless ⊢
        simp

theorem grounded_agenda (rolePrefix : String) (request : InstallRequest) (job : String)
    (items : List Documents.Item) (known : List Place) :
    Agenda.Grounded known (agenda rolePrefix request job items) := by
  have roles : ∀ (known : List Place) told (rs : List Object),
      Agenda.Grounded known (roleActs told rs) := by
    intro known told rs
    induction rs generalizing known with
    | nil => exact .nil
    | cons r rest ih => exact .create (ih _)
  induction items generalizing known with
  | nil => exact .nil
  | cons item rest ih =>
    refine Agenda.Grounded.append ?_ (ih known)
    rcases item with e | _ | document
    · exact .refuse .nil
    · exact .nil
    · show Agenda.Grounded known (documentActs rolePrefix request job document)
      unfold documentActs creationActs
      rw [List.append_assoc]
      refine Agenda.Grounded.append ?_ (.create ?_)
      · split
        · exact roles _ _ _
        · exact .nil
      · split
        · exact .fetch List.mem_cons_self .nil
        · exact .nil

theorem records_rolesBefore (rolePrefix : String) (request : InstallRequest) (o : Object) :
    ((rolesBefore rolePrefix request o).filter fun o => decide o.IsStackRecord) = [] := by
  refine List.filter_eq_nil_iff.2 fun o' member => ?_
  unfold rolesBefore at member
  split at member
  · simpa using Persona.not_isStackRecord_of_mem member
  · cases member

theorem fetched_agenda {rolePrefix : String} {request : InstallRequest}
    {items : List Documents.Item} (atEnd : (walk rolePrefix request items).halt = .atEnd)
    (job : String) :
    (agenda rolePrefix request job items).filterMap Act.fetched? =
      (walk rolePrefix request items).records := by
  induction items with
  | nil => rfl
  | cons item rest ih =>
    rcases item with e | _ | document
    · cases atEnd
    · exact ih atEnd
    · rw [walk] at atEnd ⊢
      by_cases nameless : (materialized request document).name = ""
      · simp only [if_pos nameless] at atEnd
        cases atEnd
      · simp only [if_neg nameless] at atEnd ⊢
        have nothing := creationActs_fetched rolePrefix request job (materialized request document)
        simp only [Walk.records, List.filter_append, records_rolesBefore, List.nil_append]
        by_cases stack : (materialized request document).IsStackRecord
        · rw [agenda_record stack, List.filterMap_append, nothing, List.filterMap_append, ih atEnd]
          simp [stack, Walk.records, fetchAct, Act.fetched?]
        · rw [agenda_other stack, List.filterMap_append, nothing, ih atEnd]
          simp [stack, Walk.records]

def Walk.outcome (w : Walk) (request : InstallRequest) (job : Job) (s : Store) :
    Except InstallError InstallRequest :=
  match w.halt.error? job.metadata.name with
  | some e => .error e
  | none => resolved request job s w.records.getLast?

theorem calm_agenda {c : Cluster} (calm : c.Calm) (rolePrefix : String) (request : InstallRequest)
    (job : Job) (items : List Documents.Item) :
    let acts := agenda rolePrefix request job.metadata.name items
    let walked := walk rolePrefix request items
    (c.afterAgenda acts).store = c.store.absorbAll c.identities walked.objects ∧
      agendaOutcome c request job acts =
        walked.outcome request job (c.store.absorbAll c.identities walked.objects) := by
  intro acts walked
  have grounded := grounded_agenda rolePrefix request job.metadata.name items []
  obtain ⟨store, failure⟩ := calm.afterAgenda (List.nil_subset _) grounded
  rw [plan_agenda] at store failure
  refine ⟨store, ?_⟩
  unfold agendaOutcome Walk.outcome
  rw [failure, store]
  simp only [walked]
  cases halt : (walk rolePrefix request items).halt with
  | atEnd =>
    have last : lastFetched acts = (walk rolePrefix request items).records.getLast? :=
      congrArg List.getLast? (fetched_agenda halt job.metadata.name)
    exact congrArg (resolved request job _) last
  | atFault e => rfl
  | atNameless o => rfl

/-- What the output of a pod is where no call fails of itself. -/
def outputIn (b : LogBook) (key : ObjectKey) : Except InstallError (List UInt8) :=
  match b.body key with
  | .error e => .error (.openLogs key.name e)
  | .ok body =>
    match b.deliver body with
    | (bytes, none) => .ok bytes
    | (_, some e) => .error (.copyLogs key.name e)

theorem podReply_of_listed {c : Cluster} {job : Job} (listed : c.failure? (podCall job) = none) :
    podReply c job =
      match podsOf c.store job with
      | [pod] => .ok pod.name
      | pods => .error (.podCount job.metadata.name pods.length) := by
  unfold podReply
  rw [listed]
  rcases podsOf c.store job with _ | ⟨pod, _ | ⟨other, rest⟩⟩ <;> rfl

theorem calm_podReply {c : Cluster} (calm : c.Calm) (job : Job) :
    podReply c job =
      match podsOf c.store job with
      | [pod] => .ok pod.name
      | pods => .error (.podCount job.metadata.name pods.length) :=
  podReply_of_listed (calm.failure?_eq _)

theorem calm_outputReply {c : Cluster} (calm : c.Calm) (key : ObjectKey) :
    outputReply c key = outputIn c.logs key := by
  unfold outputReply outputIn openReply
  rw [calm.logFaults]
  cases c.logs.body key with
  | error e => rfl
  | ok body =>
    have unfailed : (c.entered (.openLog key)).logFaults (c.entered (.openLog key)).journal.length
        (.readLog key) = none := calm.logFaults _ _
    have same : (c.entered (.openLog key)).logs = c.logs := rfl
    simp only [readReply, unfailed, same]
    rcases c.logs.deliver body with ⟨bytes, _ | e⟩ <;> rfl

theorem calm_calling {c : Cluster} (calm : c.Calm) (calls : List Call) : (calling c calls).Calm :=
  ⟨calm.faults, calm.logFaults⟩

theorem calm_complete {c : Cluster} (calm : c.Calm) (rolePrefix : String)
    (request : InstallRequest) {job : Job} {pod : Object} (one : podsOf c.store job = [pod])
    {output : List UInt8}
    (written : outputIn c.logs ⟨job.metadata.namespaceName, pod.name⟩ = .ok output) :
    let result := c.run (complete rolePrefix request job)
    let walked := walk rolePrefix request (Documents.decode output)
    result.2.store = c.store.absorbAll c.identities walked.objects ∧
      result.1 = walked.outcome request job result.2.store := by
  intro result walked
  obtain ⟨outcome, -, store⟩ := run_complete c rolePrefix request job
  have found : podReply c job = .ok pod.name := by rw [calm_podReply calm, one]
  have read : outputReply (calling c [podCall job]) ⟨job.metadata.namespaceName, pod.name⟩ =
    .ok output := (calm_outputReply (calm_calling calm _) _).trans written
  obtain ⟨stored, ended⟩ := calm_agenda
    (calm_calling calm (readingCalls c job ⟨job.metadata.namespaceName, pod.name⟩)) rolePrefix
    request job (Documents.decode output)
  simp only [course, found, read] at outcome store
  have same := store.trans stored
  refine ⟨same, ?_⟩
  rw [same]
  exact outcome.trans ended

theorem name_ne_of_mem_walk {rolePrefix : String} {request : InstallRequest}
    {items : List Documents.Item} {o : Object}
    (member : o ∈ (walk rolePrefix request items).objects) : o.name ≠ "" := by
  have planned : (agenda rolePrefix request "" items).plan.1 =
      (walk rolePrefix request items).objects :=
    congrArg Prod.fst (plan_agenda rolePrefix request "" items)
  rw [← planned] at member
  exact Agenda.name_ne_of_mem_plan member

theorem resolved_of_there {s : Store} {o : Object} (there : o.place ∈ s.places)
    (request : InstallRequest) (job : Job) :
    ∃ stored, s.find? o.coordinates (.ofObject o) = some stored ∧
      resolved request job s (some o) = .ok (request.withStackRecord (referenceTo stored)) := by
  obtain ⟨stored, found⟩ := Option.isSome_iff_exists.1 (Store.find?_isSome_iff.2 there)
  refine ⟨stored, found, ?_⟩
  simp only [resolved, found]
  rfl

theorem outcome_ok_iff {w : Walk} {s : Store} (there : ∀ o ∈ w.objects, o.place ∈ s.places)
    (request : InstallRequest) (job : Job) :
    (∃ updated, w.outcome request job s = .ok updated) ↔
      w.halt = .atEnd ∧ ∃ o ∈ w.objects, o.IsStackRecord := by
  have records : (∃ o ∈ w.objects, o.IsStackRecord) ↔ w.records ≠ [] := by
    rw [Walk.records, ne_eq, List.filter_eq_nil_iff]
    simp
  rw [records]
  unfold Walk.outcome
  cases halt : w.halt with
  | atFault e => simp [Halt.error?]
  | atNameless o => simp [Halt.error?]
  | atEnd =>
    simp only [Halt.error?, true_and]
    cases last : w.records.getLast? with
    | none => simp [List.getLast?_eq_none_iff.1 last, resolved]
    | some o =>
      have member : o ∈ w.records := List.mem_of_getLast? last
      obtain ⟨stored, -, ok⟩ :=
        resolved_of_there (there o (List.mem_filter.1 member).1) request job
      rw [ok]
      exact ⟨fun _ => List.ne_nil_of_mem member, fun _ => ⟨_, rfl⟩⟩

-- A small cluster: the pod `p` of a job, whose output is given

def sampleTime : Timestamp := ⟨⟨2024, 5, 1⟩, ⟨0, 0, 0, 0⟩, by decide, by decide⟩

def sampleJob : Job := ⟨.ofName "a" "j", ⟨none, ⟨.empty, ⟨none, [], [], []⟩⟩⟩⟩

def sampleRequest : InstallRequest := .ofPackage .stackInstall "a" "r" "image"

def samplePod : Object := .ofCoordinates Pod.coordinates (Pod.ofJob sampleJob "p").metadata

def sampleIdentities (n : Nat) : Identity := ⟨toString n, sampleTime⟩

def sampleStore : Store := Store.empty.absorb sampleIdentities samplePod

def sampleLogs (output : String) : LogBook :=
  LogBook.empty.insert ⟨"a", "p"⟩ (Utf8.encode output.toList)

def sampleCluster (output : String) : Cluster :=
  .calm sampleStore (sampleLogs output) sampleIdentities

def sampleOutput : String := "apiVersion: stacks.crossplane.io/v1alpha1\nkind: Stack\n"

theorem calm_calm (s : Store) (b : LogBook) (identities : Nat → Identity) :
    (Cluster.calm s b identities).Calm := ⟨fun _ _ => rfl, fun _ _ => rfl⟩

theorem sampleCluster_store (output : String) : (sampleCluster output).store = sampleStore := rfl

theorem sample_pods :
    podsOf sampleStore sampleJob = [Store.identified samplePod (sampleIdentities 0)] := by
  decide +kernel

theorem sample_completes (output rolePrefix : String) (request : InstallRequest) :
    let walked := walk rolePrefix request (Documents.decode (Utf8.encode output.toList))
    let result := (sampleCluster output).run (complete rolePrefix request sampleJob)
    result.2.store = sampleStore.absorbAll sampleIdentities walked.objects ∧
      result.1 = walked.outcome request sampleJob result.2.store := by
  have calm : (sampleCluster output).Calm := calm_calm _ _ _
  exact calm_complete calm rolePrefix request sample_pods rfl

/-- Where no call fails, the store afterwards is the one before with the first object more for each
free place among what the walk collects, and the completion succeeds where the walk reaches the end
and has met a stack record. The walk collects what is made of the documents of the output. -/
theorem complete_effect {c : Cluster} (calm : c.Calm) (rolePrefix : String)
    (request : InstallRequest) {job : Job} {pod : Object} (one : podsOf c.store job = [pod])
    {output : List UInt8}
    (written : outputIn c.logs ⟨job.metadata.namespaceName, pod.name⟩ = .ok output) :
    let result := c.run (complete rolePrefix request job)
    let walked := walk rolePrefix request (Documents.decode output)
    result.2.store = c.store.joined c.identities (Store.newcomers c.store.places walked.objects) ∧
      result.1 = walked.outcome request job result.2.store ∧
      ((∃ updated, result.1 = .ok updated) ↔
        walked.halt = .atEnd ∧ ∃ o ∈ walked.objects, o.IsStackRecord) ∧
      Collected rolePrefix request (Documents.decode output) walked.objects walked.halt := by
  intro result walked
  obtain ⟨store, outcome⟩ := calm_complete calm rolePrefix request one written
  have named : ∀ o ∈ walked.objects, o.name ≠ "" := fun o member => name_ne_of_mem_walk member
  have there : ∀ o ∈ walked.objects, o.place ∈ result.2.store.places := by
    intro o member
    simp only [result, store]
    exact Store.place_mem_absorbAll member (named o member)
  refine ⟨store.trans (Store.absorbAll_eq_joined named c.store), outcome, ?_,
    collected_walk rolePrefix request (Documents.decode output)⟩
  rw [← outcome_ok_iff there request job]
  simp only [result, walked, outcome]

theorem complete_effect_sample :
    let c := sampleCluster sampleOutput
    let result := c.run (complete "x" sampleRequest sampleJob)
    c.Calm ∧ podsOf c.store sampleJob = sampleStore.objects ∧
      outputIn c.logs ⟨"a", "p"⟩ = .ok (Utf8.encode sampleOutput.toList) ∧
      result.2.store.objects.map (·.name) = ["p", "r"] ∧ ∃ updated, result.1 = .ok updated := by
  intro c result
  have calm : c.Calm := calm_calm _ _ _
  have one : podsOf c.store sampleJob = sampleStore.objects := by decide +kernel
  have written : outputIn c.logs ⟨"a", "p"⟩ = .ok (Utf8.encode sampleOutput.toList) := rfl
  obtain ⟨store, -, succeeds, -⟩ := complete_effect calm "x" sampleRequest one written
  refine ⟨calm, one, written, ?_, succeeds.2 ?_⟩
  · simp only [result, store]
    decide +kernel
  · show (walk "x" sampleRequest (Documents.decode (Utf8.encode sampleOutput.toList))).halt = _ ∧ _
    decide +kernel

end PackageInstall.Completion
