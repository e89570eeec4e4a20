import PackageInstall.Proofs.Chronicle

namespace PackageInstall

theorem Coordinates.eq_schemaDefinition_iff {c : Coordinates} :
    c = schemaDefinition ↔ c.IsSchemaDefinition ∧ c.kind = schemaDefinition.kind := by
  constructor
  · rintro rfl
    exact ⟨⟨rfl, rfl, rfl⟩, rfl⟩
  · rintro ⟨⟨group, version, -⟩, kind⟩
    obtain ⟨group', version', kind'⟩ := c
    simp only at group version kind
    rw [group, version, kind]

theorem ClusterRole.coordinates_object (r : ClusterRole) :
    (Resource.object r).coordinates = coordinates := by
  have same : Coordinates.ofApiVersion coordinates.apiVersion coordinates.kind = coordinates := by
    decide
  exact same

theorem Persona.coordinates_of_mem {request : InstallRequest} {rolePrefix : String} {o : Object}
    (member : o ∈ roleObjects request rolePrefix) : o.coordinates = ClusterRole.coordinates := by
  unfold roleObjects at member
  split at member
  · obtain ⟨p, -, rfl⟩ := List.mem_map.1 member
    exact ClusterRole.coordinates_object _
  · cases member

namespace Object

/-- A schema definition whose kind is spelled otherwise than its type's. -/
def IsRespelled (o : Object) : Prop :=
  o.IsSchemaDefinition ∧ o.kind ≠ Coordinates.schemaDefinition.kind

instance (o : Object) : Decidable o.IsRespelled := inferInstanceAs (Decidable (_ ∧ _))

theorem kind_coordinates (o : Object) : o.coordinates.kind = o.kind :=
  Coordinates.kind_ofApiVersion o.apiVersion o.kind

theorem not_isSchemaDefinition_of_role {o : Object}
    (role : o.coordinates = ClusterRole.coordinates) : ¬o.IsSchemaDefinition := by
  rw [IsSchemaDefinition, role]
  decide

end Object

namespace Store

theorem afterTurns_singleton (s : Store) (t : Turn) : s.afterTurns [t] = t.after s := rfl

theorem mem_afterTurns {s : Store} {turns : List Turn} {e : Entry}
    (member : e ∈ (s.afterTurns turns).entries) :
    e ∈ s.entries ∨ ∃ front t back, turns = front ++ t :: back ∧
      e ∉ (s.afterTurns front).entries ∧ e ∈ (t.after (s.afterTurns front)).entries := by
  induction turns generalizing s with
  | nil => exact .inl member
  | cons t rest ih =>
    rcases ih member with here | ⟨front, t', back, rfl, absent, there⟩
    · by_cases old : e ∈ s.entries
      · exact .inl old
      · exact .inr ⟨[], t, rest, rfl, old, here⟩
    · exact .inr ⟨t :: front, t', back, rfl, absent, there⟩

end Store

theorem Completion.origin_of_new {c : Cluster} {rolePrefix : String} {request : InstallRequest}
    {job : Job} {e : Store.Entry}
    (there : e ∈ (c.run (complete rolePrefix request job)).2.store.entries)
    (absent : e ∉ c.store.entries) :
    ∃ key output, c.logs.body key = .ok output ∧
      Completion.Origin rolePrefix request (Documents.decode output) e.object := by
  obtain ⟨new, grown, created⟩ := created_of_complete c rolePrefix request job
  rw [grown] at there
  rcases List.mem_append.1 there with old | member
  · exact absurd old absent
  · obtain ⟨pod, output, o, told, -, written, act, same⟩ := created e member
    rw [same]
    exact ⟨_, output, written, origin_of_mem_agenda act _⟩

namespace Turn

open Completion

def Delivers (t : Turn) (document : Object) : Prop :=
  ∃ key output, t.around.logs.body key = .ok output ∧
    .ok (some document) ∈ Documents.decode output

theorem after_of_complete {t : Turn} {rolePrefix : String} {request : InstallRequest} {job : Job}
    (deed : t.deed = .complete rolePrefix request job) (s : Store) :
    t.after s = ((t.on s).run (complete rolePrefix request job)).2.store := by
  rw [Turn.after, deed]
  rfl

theorem role_or_delivered {t : Turn} {rolePrefix : String} {request : InstallRequest} {job : Job}
    (deed : t.deed = .complete rolePrefix request job) {s : Store} {e : Store.Entry}
    (there : e ∈ (t.after s).entries) (absent : e ∉ s.entries) :
    e.object.coordinates = ClusterRole.coordinates ∨
      ∃ document, t.Delivers document ∧ MadeOf request document e.object := by
  rw [after_of_complete deed] at there
  obtain ⟨key, output, written, origin⟩ := origin_of_new there absent
  generalize e.object = o at origin
  cases origin with
  | role _ _ _ member =>
    have coordinates := Persona.coordinates_of_mem member
    exact .inl coordinates
  | document delivered made => exact .inr ⟨_, ⟨key, output, written, delivered⟩, made⟩

end Turn

namespace Completion

theorem MadeOf.isRespelled_iff {request : InstallRequest} {document o : Object}
    (made : MadeOf request document o) : o.IsRespelled ↔ document.IsRespelled := by
  rw [Object.IsRespelled, Object.IsSchemaDefinition, Object.coordinates, made.apiVersion, made.kind]
  rfl

end Completion

namespace Sweep

open Completion

structure Due (request : InstallRequest) (o : Object) : Prop where
  borne : (Provenance.ofParent request).Borne o.metadata.labels
  type : o.IsSchemaDefinition ∨ o.coordinates = ClusterRole.coordinates

instance (request : InstallRequest) (o : Object) : Decidable (Due request o) :=
  decidable_of_iff (_ ∧ _) ⟨fun ⟨borne, type⟩ => ⟨borne, type⟩, fun due => ⟨due.borne, due.type⟩⟩

theorem isRespelled_iff_unlisted {o : Object} :
    o.IsRespelled ↔ (o.IsSchemaDefinition ∨ o.coordinates = ClusterRole.coordinates) ∧
      o.coordinates ∉ clusterScoped := by
  have listed : o.coordinates ∈ clusterScoped ↔
      o.coordinates = Coordinates.schemaDefinition ∨ o.coordinates = ClusterRole.coordinates := by
    simp [clusterScoped]
  rw [listed, Coordinates.eq_schemaDefinition_iff, o.kind_coordinates]
  constructor
  · rintro ⟨schema, spelled⟩
    refine ⟨.inl schema, ?_⟩
    rintro (⟨-, same⟩ | role)
    · exact spelled same
    · exact Object.not_isSchemaDefinition_of_role role schema
  · rintro ⟨schema | role, unlisted⟩
    · exact ⟨schema, fun same => unlisted (.inl ⟨schema, same⟩)⟩
    · exact absurd (.inr role) unlisted

theorem due_left_iff {c : Cluster} (calm : c.Calm) (kept : c.store.Kept) (request : InstallRequest)
    {e : Store.Entry} :
    (e ∈ (c.run (sweep request clusterScoped)).2.store.entries ∧ Due request e.object) ↔
      e ∈ c.store.entries ∧ (Provenance.ofParent request).Borne e.object.metadata.labels ∧
        e.object.IsRespelled := by
  rw [mem_calm_sweep calm kept, isRespelled_iff_unlisted]
  constructor
  · rintro ⟨⟨stored, unmarked⟩, due⟩
    rw [Marked, kept.coordinates_eq stored] at unmarked
    exact ⟨stored, due.borne, due.type, fun listed => unmarked ⟨listed, due.borne⟩⟩
  · rintro ⟨stored, borne, type, unlisted⟩
    rw [Marked, kept.coordinates_eq stored]
    exact ⟨⟨stored, fun marked => unlisted marked.1⟩, borne, type⟩

/-- After completions of a request, whatever their outcomes, a sweep where no call fails leaves of
the schema definitions and roles of the request exactly the definitions whose kind is spelled
otherwise. Each of these was there before, or is made of a document that is spelled so. -/
theorem left_iff_respelled {s : Store} (reachable : s.Reachable) {request : InstallRequest}
    {turns : List Turn}
    (completions : ∀ t ∈ turns, ∃ rolePrefix job, t.deed = .complete rolePrefix request job)
    {d : Cluster} (calm : d.Calm) (continued : d.store = s.afterTurns turns) (e : Store.Entry) :
    let left := (d.run (sweep request clusterScoped)).2.store
    ((e ∈ left.entries ∧ Due request e.object) ↔
      e ∈ d.store.entries ∧ (Provenance.ofParent request).Borne e.object.metadata.labels ∧
        e.object.IsRespelled) ∧
    (e ∈ left.entries → Due request e.object → e ∈ s.entries ∨
      ∃ t ∈ turns, ∃ document, t.Delivers document ∧ document.IsRespelled ∧
        MadeOf request document e.object) := by
  intro left
  have kept : d.store.Kept := by
    rw [continued]
    exact (Store.reachable_afterTurns reachable turns).kept
  have exact := due_left_iff calm kept request (e := e)
  refine ⟨exact, fun there due => ?_⟩
  obtain ⟨stored, -, spelled⟩ := exact.1 ⟨there, due⟩
  rw [continued] at stored
  rcases Store.mem_afterTurns stored with old | ⟨front, t, back, rfl, absent, new⟩
  · exact .inl old
  · have taken : t ∈ front ++ t :: back := List.mem_append_right _ List.mem_cons_self
    obtain ⟨rolePrefix, job, deed⟩ := completions t taken
    rcases Turn.role_or_delivered deed new absent with role | ⟨document, delivered, made⟩
    · exact absurd spelled.1 (Object.not_isSchemaDefinition_of_role role)
    · exact .inr ⟨t, taken, document, delivered, made.isRespelled_iff.1 spelled, made⟩

end Sweep

namespace Completion

open Sweep

def respelledDefinition : String :=
  "apiVersion: apiextensions.k8s.io/v1beta1\nkind: customresourcedefinition\n"

def definitionName : String := "metadata:\n  name: caches.example.org\n---\n"

def respelledOutput : String := respelledDefinition ++ (definitionName ++ sampleOutput)

def respelledTurn : Turn :=
  ⟨.complete "x" sampleRequest sampleJob, sampleCluster respelledOutput⟩

theorem respelledTurn_completes : ∀ t ∈ [respelledTurn], ∃ rolePrefix job,
    t.deed = .complete rolePrefix sampleRequest job := by
  intro t member
  rw [List.mem_singleton.1 member]
  exact ⟨"x", sampleJob, rfl⟩

theorem respelledTurn_leaves :
    ∃ e ∈ (sampleStore.afterTurns [respelledTurn]).entries, e ∉ sampleStore.entries ∧
      (Provenance.ofParent sampleRequest).Borne e.object.metadata.labels ∧
      e.object.IsRespelled := by
  rw [Store.afterTurns_singleton]
  have known : ∃ e ∈ (respelledTurn.after sampleStore).entries, e ∉ sampleStore.entries ∧
      e.object.IsRespelled := by
    have begins : respelledTurn.on sampleStore = sampleCluster respelledOutput := rfl
    -- a long text is taken apart into its characters much faster piece by piece
    rw [Turn.after_of_complete rfl, begins, (sample_completes _ _ _).1, respelledOutput,
      String.toList_append, String.toList_append]
    decide +kernel
  obtain ⟨e, there, new, spelled⟩ := known
  rcases Turn.role_or_delivered rfl there new with role | ⟨document, -, made⟩
  · exact absurd spelled.1 (Object.not_isSchemaDefinition_of_role role)
  · exact ⟨e, there, new, made.provenance, spelled⟩

theorem left_iff_respelled_sample :
    let after := sampleStore.afterTurns [respelledTurn]
    let left := ((sampleAround after).run (sweep sampleRequest clusterScoped)).2.store
    ∃ e ∈ left.entries, Due sampleRequest e.object ∧
      ∃ document, respelledTurn.Delivers document ∧ document.IsRespelled ∧
        MadeOf sampleRequest document e.object := by
  obtain ⟨e, stored, new, borne, spelled⟩ := respelledTurn_leaves
  obtain ⟨exact, origin⟩ := left_iff_respelled sampleStore_reachable respelledTurn_completes
    (sampleAround_calm _) (sampleAround_store _) e
  obtain ⟨there, due⟩ := exact.2 ⟨stored, borne, spelled⟩
  refine ⟨e, there, due, ?_⟩
  rcases origin there due with old | ⟨t, taken, document, delivered, spelled', made⟩
  · exact absurd old new
  · rw [List.mem_singleton.1 taken] at delivered
    exact ⟨document, delivered, spelled', made⟩

/-- A completion of a request and the sweep of the same request, after which a schema definition of
the request is left. -/
theorem definition_left_behind :
    let after := sampleStore.afterTurns [respelledTurn]
    let left := ((sampleAround after).run (sweep sampleRequest clusterScoped)).2.store
    ∃ e ∈ left.entries, e.object.IsSchemaDefinition ∧
      (Provenance.ofParent sampleRequest).Borne e.object.metadata.labels := by
  have kept := (Store.reachable_afterTurns sampleStore_reachable [respelledTurn]).kept
  obtain ⟨e, stored, -, borne, spelled⟩ := respelledTurn_leaves
  -- what has been stored is kept from being evaluated
  generalize sampleStore.afterTurns [respelledTurn] = after at *
  obtain ⟨there, -⟩ := (due_left_iff (sampleAround_calm _) kept sampleRequest).2
    ⟨stored, borne, spelled⟩
  exact ⟨e, there, spelled.1, borne⟩

end Completion

end PackageInstall
