import PackageInstall.Proofs.Coordinates
import PackageInstall.Proofs.History
import PackageInstall.Proofs.Origin
import PackageInstall.Proofs.Repetition

namespace PackageInstall

def Store.pointed (s : Store) (r : ObjectReference) : Except StoreError Object :=
  s.get (.ofApiVersion r.apiVersion r.kind) ⟨r.namespaceName, r.name⟩

namespace Store

theorem get_eq_ok_iff {s : Store} {c : Coordinates} {k : ObjectKey} {o : Object} :
    s.get c k = .ok o ↔ s.find? c k = some o := by
  unfold get
  cases s.find? c k <;> simp

theorem get_of_find?_none {s : Store} {c : Coordinates} {k : ObjectKey}
    (absent : s.find? c k = none) : s.get c k = .error (.notFound c.kind k) := by
  simp [get, absent]

theorem find?_of_appended {s t : Store} {new : List Entry} (grown : t.entries = s.entries ++ new)
    {c : Coordinates} {k : ObjectKey} {o : Object} (found : t.find? c k = some o) :
    s.find? c k = some o ∨ s.find? c k = none ∧ ∃ e ∈ new, e.object = o := by
  cases before : s.find? c k with
  | some held =>
    have kept : t.find? c k = some held := find?_of_grown ⟨new, grown.symm⟩ before
    rw [found] at kept
    exact .inl kept.symm
  | none =>
    refine .inr ⟨rfl, ?_⟩
    unfold find? at found before
    rw [grown, List.find?_append, Option.map_eq_none_iff.1 before, Option.none_or] at found
    obtain ⟨e, first, same⟩ := Option.map_eq_some_iff.1 found
    exact ⟨e, List.mem_of_find?_eq_some first, same⟩

end Store

theorem Object.apiVersion_eq_of_isStackRecord {o o' : Object} (stack : o.IsStackRecord)
    (same : o'.coordinates = o.coordinates) : o'.apiVersion = o.apiVersion := by
  have grouped : o.coordinates.group ≠ "" := by
    rw [stack.1]
    decide
  have grouped' : o'.coordinates.group ≠ "" := same ▸ grouped
  rw [← Coordinates.apiVersion_ofApiVersion grouped, ← Coordinates.apiVersion_ofApiVersion grouped']
  exact congrArg Coordinates.apiVersion same

theorem Object.kind_eq_of_coordinates {o o' : Object} (same : o'.coordinates = o.coordinates) :
    o'.kind = o.kind := by
  rw [← Coordinates.kind_ofApiVersion o.apiVersion o.kind,
    ← Coordinates.kind_ofApiVersion o'.apiVersion o'.kind]
  exact congrArg Coordinates.kind same

namespace Completion

open Cluster

def documentsOf (items : List Documents.Item) : List Object :=
  items.filterMap fun
    | .ok document => document
    | .error _ => none

theorem mem_documentsOf {items : List Documents.Item} {document : Object} :
    document ∈ documentsOf items ↔ .ok (some document) ∈ items := by
  rw [documentsOf, List.mem_filterMap]
  constructor
  · rintro ⟨item, member, same⟩
    rcases item with e | _ | other
    · cases same
    · cases same
    · obtain rfl := Option.some_inj.1 same
      exact member
  · intro member
    exact ⟨_, member, rfl⟩

def lastRecord? (items : List Documents.Item) : Option Object :=
  ((documentsOf items).filter fun document => decide document.IsStackRecord).getLast?

theorem fetched_items (rolePrefix : String) (request : InstallRequest) (job : String)
    (items : List Documents.Item) :
    (agenda rolePrefix request job items).filterMap Act.fetched? =
      ((documentsOf items).filter fun document => decide document.IsStackRecord).map
        (materialized request) := by
  induction items with
  | nil => rfl
  | cons item rest ih =>
    rcases item with e | _ | document
    · exact ih
    · exact ih
    · have nothing := creationActs_fetched rolePrefix request job (materialized request document)
      have here : documentsOf (.ok (some document) :: rest) = document :: documentsOf rest := rfl
      rw [here]
      by_cases stack : document.IsStackRecord
      · rw [agenda_record (isStackRecord_materialized.2 stack), List.filterMap_append, nothing,
          List.filterMap_append, ih]
        simp [stack, fetchAct, Act.fetched?]
      · have other : ¬(materialized request document).IsStackRecord :=
          fun record => stack (isStackRecord_materialized.1 record)
        rw [agenda_other other, List.filterMap_append, nothing, ih]
        simp [stack]

theorem lastFetched_agenda (rolePrefix : String) (request : InstallRequest) (job : String)
    (items : List Documents.Item) :
    lastFetched (agenda rolePrefix request job items) =
      (lastRecord? items).map (materialized request) := by
  rw [lastFetched, fetched_items, List.getLast?_map]
  rfl

theorem resolved_eq_ok {request updated : InstallRequest} {job : Job} {s : Store}
    {last : Option Object} (resolves : resolved request job s last = .ok updated) :
    ∃ o stored, last = some o ∧ s.find? o.coordinates (.ofObject o) = some stored ∧
      updated = request.withStackRecord (referenceTo stored) := by
  cases last with
  | none => cases resolves
  | some o =>
    simp only [resolved] at resolves
    cases found : s.find? o.coordinates (.ofObject o) with
    | none =>
      rw [found] at resolves
      cases resolves
    | some stored =>
      rw [found] at resolves
      cases resolves
      exact ⟨o, stored, rfl, found, rfl⟩

theorem reachable_complete {c : Cluster} (reachable : c.store.Reachable) (rolePrefix : String)
    (request : InstallRequest) (job : Job) :
    (c.run (complete rolePrefix request job)).2.store.Reachable := by
  rcases complete_cases c rolePrefix request job with ⟨-, store⟩ | ⟨pod, output, -, -, -, store⟩
  · rwa [store]
  · have begun : (calling c (readingCalls c job
        ⟨job.metadata.namespaceName, pod.name⟩)).store.Reachable :=
      reachable
    rw [store]
    exact reachable_afterAgenda begun _

theorem complete_ok {c : Cluster} {rolePrefix : String} {request updated : InstallRequest}
    {job : Job} (done : (c.run (complete rolePrefix request job)).1 = .ok updated) :
    ∃ pod output document stored, podsOf c.store job = [pod] ∧
      c.logs.body ⟨job.metadata.namespaceName, pod.name⟩ = .ok output ∧
      lastRecord? (Documents.decode output) = some document ∧
      (c.run (complete rolePrefix request job)).2.store.find? document.coordinates
        (.ofObject (materialized request document)) = some stored ∧
      updated = request.withStackRecord (referenceTo stored) := by
  rcases complete_cases c rolePrefix request job with
    ⟨⟨e, failed⟩, -⟩ | ⟨pod, output, one, read, outcome, store⟩
  · rw [failed] at done
    cases done
  · rw [outcome] at done
    unfold agendaOutcome at done
    split at done
    · cases done
    · obtain ⟨o, stored, last, found, points⟩ := resolved_eq_ok done
      rw [outputActs, lastFetched_agenda] at last
      obtain ⟨document, isLast, rfl⟩ := Option.map_eq_some_iff.1 last
      have written : (calling c [podCall job]).logs.body
        ⟨job.metadata.namespaceName, pod.name⟩ = .ok output := body_of_outputReply read
      rw [coordinates_materialized, ← store] at found
      exact ⟨pod, output, document, stored, one, written, isLast, found, points⟩

theorem isStackRecord_of_lastRecord? {items : List Documents.Item} {document : Object}
    (last : lastRecord? items = some document) : document.IsStackRecord := by
  have member := List.mem_of_getLast? last
  simpa using (List.mem_filter.1 member).2

theorem pointed_referenceTo {s : Store} (reachable : s.Reachable) {c : Coordinates} {k : ObjectKey}
    {stored : Object} (found : s.find? c k = some stored) :
    s.pointed (referenceTo stored) = .ok stored := by
  obtain ⟨rfl, rfl⟩ := Prod.mk.inj (reachable.kept.place_of_find? found)
  exact Store.get_eq_ok_iff.2 found

/-- The request that a completion answers points at the last stack record of the output, and what is
stored there in the end has the identity that it points at. -/
theorem complete_resolves {c : Cluster} (reachable : c.store.Reachable) {rolePrefix : String}
    {request updated : InstallRequest} {job : Job}
    (done : (c.run (complete rolePrefix request job)).1 = .ok updated) :
    ∃ pod output document reference, podsOf c.store job = [pod] ∧
      c.logs.body ⟨job.metadata.namespaceName, pod.name⟩ = .ok output ∧
      lastRecord? (Documents.decode output) = some document ∧
      updated = { request with status := { request.status with stackRecord := some reference } } ∧
      reference.apiVersion = document.apiVersion ∧ reference.kind = document.kind ∧
      reference.name = (if document.name = "" then request.name else document.name) ∧
      reference.namespaceName =
        (if document.namespaceName = "" then request.namespaceName else document.namespaceName) ∧
      ∃ stored, (c.run (complete rolePrefix request job)).2.store.pointed reference = .ok stored ∧
        stored.metadata.uid = reference.uid := by
  obtain ⟨pod, output, document, stored, one, written, last, found, points⟩ := complete_ok done
  have stack : document.IsStackRecord := isStackRecord_of_lastRecord? last
  have made := madeOf_materialized request document
  have after := reachable_complete reachable rolePrefix request job
  obtain ⟨coordinates, key⟩ := Prod.mk.inj (after.kept.place_of_find? found)
  obtain ⟨namespaceName, name⟩ := ObjectKey.mk.inj key
  refine ⟨pod, output, document, referenceTo stored, one, written, last, points, ?_, ?_, ?_, ?_,
    stored, pointed_referenceTo after found, rfl⟩
  · exact Object.apiVersion_eq_of_isStackRecord stack coordinates
  · exact Object.kind_eq_of_coordinates coordinates
  · simpa [stack, referenceTo] using name.trans made.name
  · simpa [stack, referenceTo] using namespaceName.trans made.namespaceName

def sampleOther : InstallRequest :=
  { sampleRequest with metadata := { sampleRequest.metadata with uid := "anew" } }

def sampleReference : ObjectReference := ⟨"stacks.crossplane.io/v1alpha1", "Stack", "r", "a", "1"⟩

def sampleRecord : Object :=
  Store.identified (materialized sampleRequest
    ⟨"stacks.crossplane.io/v1alpha1", "Stack", .empty, .empty⟩) (sampleIdentities 1)

theorem sample_runs :
    (sampleCluster sampleOutput).store.pointed sampleReference =
        .error (.notFound "Stack" ⟨"a", "r"⟩) ∧
      ((sampleCluster sampleOutput).run (complete "x" sampleRequest sampleJob)).1 =
        .ok (sampleRequest.withStackRecord sampleReference) ∧
      ((sampleCluster sampleOutput).run
        (complete "x" sampleRequest sampleJob)).2.store.pointed sampleReference =
        .ok sampleRecord ∧
      ((sampleNext (sampleCluster sampleOutput)).run (complete "x" sampleOther sampleJob)).1 =
        .ok (sampleOther.withStackRecord sampleReference) ∧
      ((sampleNext (sampleCluster sampleOutput)).run
        (complete "x" sampleOther sampleJob)).2.store.pointed sampleReference =
        .ok sampleRecord := by
  decide +kernel

theorem sampleStore_reachable : sampleStore.Reachable := Store.Reachable.empty.absorb _ _

theorem complete_resolves_sample :
    ((sampleCluster sampleOutput).run (complete "x" sampleRequest sampleJob)).1 =
        .ok (sampleRequest.withStackRecord sampleReference) ∧
      ∃ stored, ((sampleCluster sampleOutput).run
        (complete "x" sampleRequest sampleJob)).2.store.pointed sampleReference = .ok stored ∧
        stored.metadata.uid = "1" := by
  obtain ⟨-, done, -, -, -⟩ := sample_runs
  have reachable : (sampleCluster sampleOutput).store.Reachable := sampleStore_reachable
  generalize sampleCluster sampleOutput = c at *
  obtain ⟨_, _, _, reference, -, -, -, points, -, -, -, -, stored⟩ :=
    complete_resolves reachable done
  have same : sampleReference = reference :=
    Option.some_inj.1 (congrArg (·.status.stackRecord) points)
  rw [← same] at stored
  exact ⟨done, stored⟩

structure Owned (request : InstallRequest) (record : Object) : Prop where
  ownerReferences : record.metadata.ownerReferences = [request.asOwner]
  provenance : (Provenance.ofParent request).Borne record.metadata.labels

theorem Owned.uid_eq {request other : InstallRequest} {record : Object}
    (owned : Owned request record) (owned' : Owned other record) : request.uid = other.uid := by
  have owners : [request.asOwner] = [other.asOwner] :=
    owned.ownerReferences.symm.trans owned'.ownerReferences
  exact congrArg OwnerReference.uid (List.singleton_inj.1 owners)

theorem owned_of_origin {rolePrefix : String} {request : InstallRequest}
    {items : List Documents.Item} {o : Object} (origin : Origin rolePrefix request items o)
    (stack : o.IsStackRecord) : Owned request o := by
  cases origin with
  | @role _ o i _ _ role =>
    have bare : o.IsStackRecord := stack
    exact absurd bare (Persona.not_isStackRecord_of_mem role)
  | @document document o _ made =>
    have same : o.coordinates = document.coordinates := by
      rw [Object.coordinates, made.apiVersion, made.kind]
      rfl
    have stack' : document.IsStackRecord := by
      rw [Object.IsStackRecord, ← same]
      exact stack
    exact ⟨made.ownerReferences.trans (if_pos stack'), made.provenance⟩

theorem owned_of_unheld {c : Cluster} (reachable : c.store.Reachable) {rolePrefix : String}
    {request updated : InstallRequest} {job : Job}
    (done : (c.run (complete rolePrefix request job)).1 = .ok updated) :
    ∃ reference record, updated.status.stackRecord = some reference ∧
      (c.run (complete rolePrefix request job)).2.store.pointed reference = .ok record ∧
      (c.store.pointed reference = .ok record ∨
        (∃ e, c.store.pointed reference = .error e) ∧ Owned request record) := by
  obtain ⟨pod, output, document, stored, -, -, last, found, points⟩ := complete_ok done
  have after := reachable_complete reachable rolePrefix request job
  refine ⟨referenceTo stored, stored, congrArg (·.status.stackRecord) points,
    pointed_referenceTo after found, ?_⟩
  obtain ⟨new, grown, created⟩ := created_of_complete c rolePrefix request job
  rcases Store.find?_of_appended grown found with held | ⟨absent, e, member, rfl⟩
  · exact .inl (pointed_referenceTo reachable held)
  · obtain ⟨coordinates, key⟩ := Prod.mk.inj (after.kept.place_of_find? found)
    obtain ⟨-, output', o, told, -, -, act, same⟩ := created e member
    have stack : e.object.IsStackRecord := by
      rw [Object.IsStackRecord, coordinates]
      exact isStackRecord_of_lastRecord? last
    have origin : Origin rolePrefix request (Documents.decode output') e.object := by
      rw [same]
      exact origin_of_mem_agenda act _
    rw [← coordinates, ← key] at absent
    exact .inr ⟨⟨_, Store.get_of_find?_none absent⟩, owned_of_origin origin stack⟩

/-- A completed request points at a stack record of its own unless one was stored there before. So
where requests that are told apart by their identity point at the same, it was there before one of
the two was completed. -/
theorem record_owned_or_held {c : Cluster} (reachable : c.store.Reachable) {rolePrefix : String}
    {request updated : InstallRequest} {job : Job}
    (done : (c.run (complete rolePrefix request job)).1 = .ok updated) :
    ∃ reference record, updated.status.stackRecord = some reference ∧
      (c.run (complete rolePrefix request job)).2.store.pointed reference = .ok record ∧
      (c.store.pointed reference = .ok record ∨
        (∃ e, c.store.pointed reference = .error e) ∧ Owned request record) ∧
      ∀ {d : Cluster} {rolePrefix' : String} {other updated' : InstallRequest} {job' : Job}
        {reference' : ObjectReference}, d.store.Reachable → other.uid ≠ request.uid →
        (d.run (complete rolePrefix' other job')).1 = .ok updated' →
        updated'.status.stackRecord = some reference' →
        (d.run (complete rolePrefix' other job')).2.store.pointed reference' = .ok record →
        c.store.pointed reference = .ok record ∨ d.store.pointed reference' = .ok record := by
  obtain ⟨reference, record, points, found, owned⟩ := owned_of_unheld reachable done
  refine ⟨reference, record, points, found, owned, ?_⟩
  intro d rolePrefix' other updated' job' reference' reachable' differs done' points' found'
  obtain ⟨second, record', here, there, owned'⟩ := owned_of_unheld reachable' done'
  obtain rfl : second = reference' := Option.some_inj.1 (here.symm.trans points')
  obtain rfl : record' = record := Except.ok.inj (there.symm.trans found')
  rcases owned with held | ⟨-, first⟩
  · exact .inl held
  · rcases owned' with held | ⟨-, later⟩
    · exact .inr held
    · exact absurd (later.uid_eq first) differs

theorem record_owned_or_held_sample :
    ((sampleCluster sampleOutput).run (complete "x" sampleRequest sampleJob)).1 =
        .ok (sampleRequest.withStackRecord sampleReference) ∧
      Owned sampleRequest sampleRecord ∧
      ((sampleNext (sampleCluster sampleOutput)).run (complete "x" sampleOther sampleJob)).1 =
        .ok (sampleOther.withStackRecord sampleReference) ∧
      (sampleNext (sampleCluster sampleOutput)).store.pointed sampleReference =
        .ok sampleRecord := by
  obtain ⟨unheld, first, found, second, found'⟩ := sample_runs
  have reachable : (sampleCluster sampleOutput).store.Reachable := sampleStore_reachable
  have differs : sampleOther.uid ≠ sampleRequest.uid := by decide
  generalize sampleCluster sampleOutput = c at *
  have reachable' : (sampleNext c).store.Reachable := reachable_complete reachable _ _ _
  generalize sampleNext c = d at *
  have absent : c.store.pointed sampleReference ≠ .ok sampleRecord := by
    rw [unheld]
    exact fun same => nomatch same
  obtain ⟨reference, record, points, there, owned, others⟩ := record_owned_or_held reachable first
  have same : reference = sampleReference := (Option.some_inj.1 points).symm
  rw [same] at there owned others
  have same' : record = sampleRecord := Except.ok.inj (there.symm.trans found)
  rw [same'] at owned others
  refine ⟨first, (owned.resolve_left absent).2, second, ?_⟩
  exact (others reachable' differs second rfl found').resolve_left absent

/-- Two requests of one name that point at the same stack record, although no call fails. It belongs
to the one that is completed first. -/
theorem record_of_another_request :
    (sampleCluster sampleOutput).Calm ∧ (sampleNext (sampleCluster sampleOutput)).Calm ∧
      sampleOther.uid ≠ sampleRequest.uid ∧
      ((sampleCluster sampleOutput).run (complete "x" sampleRequest sampleJob)).1 =
        .ok (sampleRequest.withStackRecord sampleReference) ∧
      ((sampleNext (sampleCluster sampleOutput)).run (complete "x" sampleOther sampleJob)).1 =
        .ok (sampleOther.withStackRecord sampleReference) ∧
      ((sampleNext (sampleCluster sampleOutput)).run
        (complete "x" sampleOther sampleJob)).2.store.pointed sampleReference =
        .ok sampleRecord ∧
      sampleRecord.metadata.ownerReferences = [sampleRequest.asOwner] ∧
      sampleRecord.metadata.ownerReferences ≠ [sampleOther.asOwner] := by
  obtain ⟨-, first, -, second, found⟩ := sample_runs
  have owners : sampleRecord.metadata.ownerReferences = [sampleRequest.asOwner] := by
    decide +kernel
  refine ⟨calm_calm _ _ _, sampleNext_calm _, by decide, first, second, found, owners, ?_⟩
  rw [owners]
  decide

end Completion

end PackageInstall
