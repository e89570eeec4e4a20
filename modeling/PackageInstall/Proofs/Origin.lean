import PackageInstall.Proofs.Course
import PackageInstall.Proofs.Plan

namespace PackageInstall

namespace Cluster

theorem entries_after (c : Cluster) (a : Act) :
    ∃ new, (a.after c).store.entries = c.store.entries ++ new ∧
      ∀ e ∈ new, ∃ o told, a = .create o told ∧
        e = Store.entryOf o (c.identities e.sequence) e.sequence := by
  have nothing : ∃ new, c.store.entries = c.store.entries ++ new ∧
      ∀ e ∈ new, ∃ o told, a = .create o told ∧
        e = Store.entryOf o (c.identities e.sequence) e.sequence :=
    ⟨[], (List.append_nil _).symm, fun e member => absurd member List.not_mem_nil⟩
  cases a with
  | fetch o told => exact nothing
  | refuse e => exact nothing
  | create o told =>
    simp only [Act.after, creating]
    split
    · exact nothing
    · by_cases named : o.name = ""
      · rw [Store.absorb_of_nameless named]
        exact nothing
      · by_cases taken : o.place ∈ c.store.places
        · rw [Store.absorb_of_taken taken]
          exact nothing
        · rw [Store.absorb_of_free named taken]
          refine ⟨_, rfl, fun e member => ⟨o, told, rfl, ?_⟩⟩
          rw [List.mem_singleton.1 member]
          rfl

theorem entries_afterAgenda (c : Cluster) (acts : Agenda) :
    ∃ new, (c.afterAgenda acts).store.entries = c.store.entries ++ new ∧
      ∀ e ∈ new, ∃ o told, .create o told ∈ acts ∧
        e = Store.entryOf o (c.identities e.sequence) e.sequence := by
  induction acts generalizing c with
  | nil => exact ⟨[], (List.append_nil _).symm, fun e member => absurd member List.not_mem_nil⟩
  | cons a rest ih =>
    obtain ⟨first, grown, created⟩ := entries_after c a
    have here : ∀ e ∈ first, ∃ o told, .create o told ∈ a :: rest ∧
        e = Store.entryOf o (c.identities e.sequence) e.sequence := by
      intro e member
      obtain ⟨o, told, rfl, same⟩ := created e member
      exact ⟨o, told, List.mem_cons_self, same⟩
    simp only [afterAgenda]
    cases a.error? c with
    | some e => exact ⟨first, grown, here⟩
    | none =>
      obtain ⟨later, grownLater, createdLater⟩ := ih (a.after c)
      rw [after_identities] at createdLater
      refine ⟨first ++ later, ?_, ?_⟩
      · simp only [grownLater, grown, List.append_assoc]
      · intro e member
        rcases List.mem_append.1 member with old | new
        · exact here e old
        · obtain ⟨o, told, act, same⟩ := createdLater e new
          exact ⟨o, told, List.mem_cons_of_mem _ act, same⟩

end Cluster

namespace Completion

open Cluster

inductive Origin (rolePrefix : String) (request : InstallRequest) (items : List Documents.Item) :
    Object → Prop where
  | role {document o : Object} (i : Identity) :
    .ok (some document) ∈ items → document.IsSchemaDefinition →
    o ∈ Persona.roleObjects request rolePrefix →
    Origin rolePrefix request items (Store.identified o i)
  | document {document o : Object} :
    .ok (some document) ∈ items → MadeOf request document o → Origin rolePrefix request items o

theorem origin_of_mem_agenda {rolePrefix : String} {request : InstallRequest} {job : String}
    {items : List Documents.Item} {o : Object} {told : StoreError → InstallError}
    (member : .create o told ∈ agenda rolePrefix request job items) (i : Identity) :
    Origin rolePrefix request items (Store.identified o i) := by
  obtain ⟨item, isItem, act⟩ := List.mem_flatMap.1 member
  rcases item with e | _ | document
  · simp [itemActs] at act
  · cases act
  · have unfetched : ¬.create o told ∈ (if (materialized request document).IsStackRecord then
        [fetchAct job (materialized request document)] else []) := by
      split <;> simp [fetchAct]
    simp only [itemActs, documentActs, creationActs] at act
    rcases List.mem_append.1 act with creation | fetching
    · rcases List.mem_append.1 creation with role | object
      · split at role
        · rename_i schema
          obtain ⟨r, isRole, same⟩ := List.mem_map.1 role
          obtain ⟨rfl, -⟩ := Act.create.inj same
          exact .role i isItem (isSchemaDefinition_materialized.1 schema) isRole
        · cases role
      · obtain ⟨rfl, -⟩ := Act.create.inj (List.mem_singleton.1 object)
        exact .document isItem ((madeOf_materialized request document).identified i)
    · exact absurd fetching unfetched

theorem created_of_complete (c : Cluster) (rolePrefix : String) (request : InstallRequest)
    (job : Job) :
    ∃ new, (c.run (complete rolePrefix request job)).2.store.entries = c.store.entries ++ new ∧
      ∀ e ∈ new, ∃ pod output o told, podsOf c.store job = [pod] ∧
        c.logs.body ⟨job.metadata.namespaceName, pod.name⟩ = .ok output ∧
        .create o told ∈ outputActs rolePrefix request job output ∧
        e = Store.entryOf o (c.identities e.sequence) e.sequence := by
  rcases complete_cases c rolePrefix request job with
    ⟨-, store⟩ | ⟨pod, output, one, read, -, store⟩
  · rw [store]
    exact ⟨[], (List.append_nil _).symm, fun e member => absurd member List.not_mem_nil⟩
  · obtain ⟨new, grown, created⟩ := entries_afterAgenda
      (calling c (readingCalls c job ⟨job.metadata.namespaceName, pod.name⟩))
      (outputActs rolePrefix request job output)
    rw [store]
    refine ⟨new, grown, fun e member => ?_⟩
    obtain ⟨o, told, act, same⟩ := created e member
    have written : (calling c [podCall job]).logs.body ⟨job.metadata.namespaceName, pod.name⟩ =
      .ok output := body_of_outputReply read
    exact ⟨pod, output, o, told, one, written, act, same⟩

/-- Whatever calls fail, what was stored stays, and each object that is new is a persona role of the
request or made of a document of the output, and stands under its own name with what it was
assigned. -/
theorem complete_origin (c : Cluster) (rolePrefix : String) (request : InstallRequest)
    (job : Job) :
    ∃ new, (c.run (complete rolePrefix request job)).2.store.entries = c.store.entries ++ new ∧
      ∀ e ∈ new, e.place = e.object.place ∧
        e.object.metadata.uid = (c.identities e.sequence).uid ∧
        e.object.metadata.creationTimestamp = some (c.identities e.sequence).created ∧
        ∃ pod output, podsOf c.store job = [pod] ∧
          c.logs.body ⟨job.metadata.namespaceName, pod.name⟩ = .ok output ∧
          Origin rolePrefix request (Documents.decode output) e.object := by
  obtain ⟨new, grown, created⟩ := created_of_complete c rolePrefix request job
  refine ⟨new, grown, fun e member => ?_⟩
  obtain ⟨pod, output, o, told, one, written, act, same⟩ := created e member
  rw [same]
  exact ⟨rfl, rfl, rfl, pod, output, one, written, origin_of_mem_agenda act _⟩

end Completion

end PackageInstall
