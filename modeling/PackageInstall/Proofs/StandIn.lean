import PackageInstall.Proofs.Leftover

namespace PackageInstall

namespace Store

theorem mem_of_mem_newcomers {taken : List Place} {os : List Object} {o : Object}
    (member : o ∈ newcomers taken os) : o ∈ os := by
  induction os generalizing taken with
  | nil => cases member
  | cons o' rest ih =>
    simp only [newcomers] at member
    split at member
    · exact List.mem_cons_of_mem _ (ih member)
    · rcases List.mem_cons.1 member with rfl | later
      · exact List.mem_cons_self
      · exact List.mem_cons_of_mem _ (ih later)

theorem find?_newcomers {taken : List Place} {p : Place} (free : p ∉ taken) (os : List Object) :
    (newcomers taken os).find? (fun o => decide (o.place = p)) =
      os.find? fun o => decide (o.place = p) := by
  induction os generalizing taken with
  | nil => rfl
  | cons o rest ih =>
    simp only [newcomers]
    by_cases here : o.place = p
    · simp [here, free]
    · have still : p ∉ o.place :: taken := by
        intro member
        rcases List.mem_cons.1 member with same | there
        · exact here same.symm
        · exact free there
      split
      · rw [ih free]
        simp [here]
      · simp [here, ih still]

variable {identities : Nat → Identity}

theorem entries_absorbAll {os : List Object} (named : ∀ o ∈ os, o.name ≠ "") (s : Store) :
    ∃ new, (s.absorbAll identities os).entries = s.entries ++ new ∧
      (∀ e ∈ new, ∃ o ∈ newcomers s.places os, ∃ i n, e = entryOf o i n) ∧
      ∀ o ∈ newcomers s.places os, ∃ e ∈ new, ∃ i n, e = entryOf o i n := by
  rw [absorbAll_eq_joined named]
  refine ⟨_, rfl, fun e member => ?_, fun o member => ?_⟩
  · obtain ⟨n, inside, rfl⟩ := List.mem_mapIdx.1 member
    exact ⟨_, List.getElem_mem inside, _, _, rfl⟩
  · obtain ⟨n, inside, rfl⟩ := List.getElem_of_mem member
    exact ⟨_, List.mem_mapIdx.2 ⟨n, inside, rfl⟩, _, _, rfl⟩

theorem first_before {early later : List Object} (named : ∀ o ∈ early, o.name ≠ "")
    {s : Store} {front back : List Entry} {e : Entry}
    (grown : (s.absorbAll identities (early ++ later)).entries = s.entries ++ (front ++ e :: back))
    (other : e.place ∉ early.map Object.place) {p : Place} (free : p ∉ s.places) {o : Object}
    (first : early.find? (fun o => decide (o.place = p)) = some o) :
    ∃ r ∈ front, r.place = p ∧ ∃ i, r.object = identified o i := by
  obtain ⟨new, begun, made, makes⟩ := entries_absorbAll named s
  obtain ⟨more, ended⟩ : (s.absorbAll identities early).entries <+:
      (s.absorbAll identities (early ++ later)).entries := by
    rw [absorbAll_append]
    exact entries_prefix_absorbAll _ later
  have split : new ++ more = front ++ e :: back := by
    rw [← ended, begun, List.append_assoc] at grown
    exact List.append_cancel_left grown
  have later : e ∉ new := by
    intro member
    obtain ⟨o', newcomer, i, n, rfl⟩ := made e member
    exact other (List.mem_map_of_mem (mem_of_mem_newcomers newcomer))
  have start : new <+: front := by
    rcases List.append_eq_append_iff.1 split with ⟨rest, whole, -⟩ | ⟨rest, whole, tail⟩
    · exact ⟨rest, whole.symm⟩
    · cases rest with
      | nil => exact ⟨[], by rw [whole, List.append_nil, List.append_nil]⟩
      | cons e' rest =>
        obtain ⟨rfl, -⟩ := List.cons.inj tail
        exact absurd (by simp [whole]) later
  rw [← find?_newcomers free] at first
  obtain ⟨r, member, i, n, rfl⟩ := makes o (List.mem_of_find?_eq_some first)
  have here : o.place = p := by simpa using List.find?_some first
  exact ⟨_, start.subset member, here, i, rfl⟩

end Store

namespace Persona

def place (p : Persona) (request : InstallRequest) (rolePrefix : String) : Place :=
  (ClusterRole.coordinates, ⟨"", p.roleName rolePrefix request.namespaceName⟩)

variable {p q : Persona} {request : InstallRequest} {rolePrefix : String}

theorem place_object :
    (Resource.object (p.role request rolePrefix)).place = p.place request rolePrefix := by
  rw [Object.place, ClusterRole.coordinates_object]
  rfl

theorem place_eq_iff {r₁ r₂ : InstallRequest} : p.place r₁ rolePrefix = q.place r₂ rolePrefix ↔
    r₁.namespaceName = r₂.namespaceName ∧ p = q := by
  have names : p.roleName rolePrefix r₁.namespaceName = q.roleName rolePrefix r₂.namespaceName ↔
      r₁.namespaceName = r₂.namespaceName ∧ p = q := roleName_inj
  rw [← names, place, place]
  simp

theorem place_inj : p.place request rolePrefix = q.place request rolePrefix ↔ p = q := by
  simp [place_eq_iff]

theorem find?_roleObjects (namespaced : request.kind = .stackInstall) :
    (roleObjects request rolePrefix).find?
        (fun o => decide (o.place = p.place request rolePrefix)) =
      some (Resource.object (p.role request rolePrefix)) := by
  simp only [roleObjects, if_pos namespaced, List.map_cons, List.map_nil, List.find?_cons,
    place_object, place_inj]
  cases p <;> rfl

structure Generated (p : Persona) (request : InstallRequest) (rolePrefix : String) (o : Object) :
    Prop where
  reads : o.toResource ClusterRole =
    .ok { p.role request rolePrefix with metadata := o.metadata }
  labels : o.metadata.labels = (p.role request rolePrefix).metadata.labels

theorem generated_identified (i : Identity) :
    p.Generated request rolePrefix
      (Store.identified (Resource.object (p.role request rolePrefix)) i) where
  reads := ClusterRole.toResource_object _ (.of_rest (role_rest p request rolePrefix))
  labels := rfl

end Persona

namespace Completion

variable {request : InstallRequest} {rolePrefix : String}

def early (items : List Documents.Item) : List Object :=
  (documentsOf items).takeWhile fun document => !decide document.IsSchemaDefinition

def forerunners (rolePrefix : String) (request : InstallRequest) (items : List Documents.Item) :
    List Object :=
  (early items).map (materialized request) ++ Persona.roleObjects request rolePrefix

def standIn? (p : Persona) (request : InstallRequest) (rolePrefix : String)
    (items : List Documents.Item) : Option Object :=
  (early items).find? fun document => decide (document.place = p.place request rolePrefix)

theorem rolesBefore_of_definition {document : Object} (schema : document.IsSchemaDefinition) :
    rolesBefore rolePrefix request (materialized request document) =
      Persona.roleObjects request rolePrefix :=
  (rolesBefore_materialized rolePrefix request document).trans (if_pos schema)

theorem rolesBefore_of_other {document : Object} (other : ¬document.IsSchemaDefinition) :
    rolesBefore rolePrefix request (materialized request document) = [] :=
  (rolesBefore_materialized rolePrefix request document).trans (if_neg other)

theorem walk_before_definition (rolePrefix : String) (request : InstallRequest)
    (items : List Documents.Item) :
    (∀ o ∈ (walk rolePrefix request items).objects, ¬o.IsSchemaDefinition) ∨
      ∃ later, (walk rolePrefix request items).objects =
        forerunners rolePrefix request items ++ later := by
  induction items with
  | nil => exact .inl fun o member => absurd member List.not_mem_nil
  | cons item rest ih =>
    rcases item with e | _ | document
    · exact .inl fun o member => absurd member List.not_mem_nil
    · exact ih
    · have documents : documentsOf (.ok (some document) :: rest) = document :: documentsOf rest :=
        rfl
      rw [walk, forerunners, early, documents]
      by_cases schema : document.IsSchemaDefinition
      · simp only [rolesBefore_of_definition schema]
        split
        · left
          intro o member
          exact Object.not_isSchemaDefinition_of_role (Persona.coordinates_of_mem member)
        · right
          rw [List.takeWhile_cons_of_neg (by simpa using schema)]
          exact ⟨_, rfl⟩
      · simp only [rolesBefore_of_other schema, List.nil_append]
        split
        · exact .inl fun o member => absurd member List.not_mem_nil
        · rcases ih with none | ⟨later, shape⟩
          · left
            intro o member
            rcases List.mem_cons.1 member with rfl | there
            · exact fun marked => schema (isSchemaDefinition_materialized.1 marked)
            · exact none o there
          · right
            rw [List.takeWhile_cons_of_pos (by simpa using schema)]
            exact ⟨later, congrArg (materialized request document :: ·) shape⟩

theorem undefined_of_forerunner {items : List Documents.Item} {o : Object}
    (member : o ∈ forerunners rolePrefix request items) : ¬o.IsSchemaDefinition := by
  rcases List.mem_append.1 member with made | role
  · obtain ⟨document, before, rfl⟩ := List.mem_map.1 made
    have undefined := List.all_eq_true.1 List.all_takeWhile document before
    rw [isSchemaDefinition_materialized]
    simpa using undefined
  · exact Object.not_isSchemaDefinition_of_role (Persona.coordinates_of_mem role)

theorem place_notMem_forerunners {items : List Documents.Item} {o : Object}
    (schema : o.IsSchemaDefinition) :
    o.place ∉ (forerunners rolePrefix request items).map Object.place := by
  intro member
  obtain ⟨forerunner, before, same⟩ := List.mem_map.1 member
  have coordinates : forerunner.coordinates = o.coordinates := congrArg Prod.fst same
  refine undefined_of_forerunner before ?_
  rw [Object.IsSchemaDefinition, coordinates]
  exact schema

theorem place_materialized_iff {document : Object} {p : Persona} :
    (materialized request document).place = p.place request rolePrefix ↔
      document.place = p.place request rolePrefix := by
  by_cases role : document.coordinates = ClusterRole.coordinates
  · have other : ¬document.IsStackRecord := by
      rw [Object.IsStackRecord, role]
      decide
    have made := madeOf_materialized request document
    have name : (materialized request document).name = document.name :=
      made.name.trans (if_neg fun both => other both.1)
    have namespaceName : (materialized request document).namespaceName = document.namespaceName :=
      made.namespaceName.trans (if_neg fun both => other both.1)
    have place : (materialized request document).place = document.place := by
      simp only [Object.place, ObjectKey.ofObject, coordinates_materialized, name, namespaceName]
    rw [place]
  · have elsewhere : ∀ o : Object, o.coordinates = document.coordinates →
        o.place ≠ p.place request rolePrefix := by
      intro o same there
      have coordinates : o.coordinates = ClusterRole.coordinates := congrArg Prod.fst there
      exact role (same.symm.trans coordinates)
    have made := elsewhere _ (coordinates_materialized request document)
    exact ⟨fun same => absurd same made, fun same => absurd same (elsewhere _ rfl)⟩

/-- What stands in the place of a persona's role: a document that stands in for it, if there is
one, and else the role as it is generated. -/
inductive Stands (p : Persona) (request : InstallRequest) (rolePrefix : String)
    (items : List Documents.Item) (o : Object) : Prop where
  | generated :
    standIn? p request rolePrefix items = none → p.Generated request rolePrefix o →
    Stands p request rolePrefix items o
  | document {document : Object} :
    standIn? p request rolePrefix items = some document → MadeOf request document o →
    Stands p request rolePrefix items o

theorem stands_of_forerunner (rolePrefix : String) (namespaced : request.kind = .stackInstall)
    (p : Persona) (items : List Documents.Item) :
    ∃ o, (forerunners rolePrefix request items).find?
        (fun o => decide (o.place = p.place request rolePrefix)) = some o ∧
      ∀ i, Stands p request rolePrefix items (Store.identified o i) := by
  have first : ((early items).map (materialized request)).find?
      (fun o => decide (o.place = p.place request rolePrefix)) =
      (standIn? p request rolePrefix items).map (materialized request) := by
    have same : (fun o => decide (o.place = p.place request rolePrefix)) ∘ materialized request =
        fun document : Object => decide (document.place = p.place request rolePrefix) := by
      funext document
      simp only [Function.comp, place_materialized_iff]
    rw [List.find?_map, same, standIn?]
  rw [forerunners, List.find?_append, first, Persona.find?_roleObjects namespaced]
  cases found : standIn? p request rolePrefix items with
  | none =>
    refine ⟨Resource.object (p.role request rolePrefix), by simp, fun i => ?_⟩
    exact .generated found (Persona.generated_identified i)
  | some document =>
    have made := madeOf_materialized request document
    exact ⟨materialized request document, by simp, fun i => .document found (made.identified i)⟩

theorem calm_complete_cases {c : Cluster} (calm : c.Calm) (rolePrefix : String)
    (request : InstallRequest) (job : Job) :
    (c.run (complete rolePrefix request job)).2.store = c.store ∨
      ∃ pod output, podsOf c.store job = [pod] ∧
        outputIn c.logs ⟨job.metadata.namespaceName, pod.name⟩ = .ok output ∧
        (c.run (complete rolePrefix request job)).2.store = c.store.absorbAll c.identities
          (walk rolePrefix request (Documents.decode output)).objects := by
  by_cases count : (podsOf c.store job).length = 1
  · obtain ⟨pod, one⟩ := List.length_eq_one_iff.1 count
    cases read : outputIn c.logs ⟨job.metadata.namespaceName, pod.name⟩ with
    | error e => exact .inl (calm_complete_unread calm rolePrefix request one read).1
    | ok output =>
      exact .inr ⟨pod, output, one, read, (calm_complete calm rolePrefix request one read).1⟩
  · exact .inl (calm_complete_podCount calm rolePrefix request count).1

/-- Where no call fails and the places of the persona roles are free, all three are taken whenever a
schema definition is created, each by the role as it is generated or by the document that stands in
for it. -/
theorem roles_before_definition {c : Cluster} (calm : c.Calm) (rolePrefix : String)
    {request : InstallRequest} (namespaced : request.kind = .stackInstall) (job : Job)
    (free : ∀ p : Persona, p.place request rolePrefix ∉ c.store.places) :
    ∃ new, (c.run (complete rolePrefix request job)).2.store.entries = c.store.entries ++ new ∧
      ∀ front e back, new = front ++ e :: back → e.object.IsSchemaDefinition →
        ∃ pod output, podsOf c.store job = [pod] ∧
          outputIn c.logs ⟨job.metadata.namespaceName, pod.name⟩ = .ok output ∧
          ∀ p : Persona, ∃ r ∈ front, r.place = p.place request rolePrefix ∧
            Stands p request rolePrefix (Documents.decode output) r.object := by
  rcases calm_complete_cases calm rolePrefix request job with
    store | ⟨pod, output, one, written, store⟩
  · rw [store]
    exact ⟨[], (List.append_nil _).symm, fun front e back new => absurd new (by simp)⟩
  · let items := Documents.decode output
    have named : ∀ o ∈ (walk rolePrefix request items).objects, o.name ≠ "" :=
      fun o member => name_ne_of_mem_walk member
    obtain ⟨new, grown, made, -⟩ := Store.entries_absorbAll named c.store
    rw [store]
    refine ⟨new, grown, fun front e back split schema => ⟨pod, output, one, written, ?_⟩⟩
    obtain ⟨o, newcomer, i, n, rfl⟩ := made e (by simp [split])
    rcases walk_before_definition rolePrefix request items with undefined | ⟨later, shape⟩
    · exact absurd schema (undefined o (Store.mem_of_mem_newcomers newcomer))
    · intro p
      obtain ⟨first, found, stands⟩ := stands_of_forerunner rolePrefix namespaced p items
      have early_named : ∀ o ∈ forerunners rolePrefix request items, o.name ≠ "" := by
        intro o member
        refine named o ?_
        rw [shape]
        exact List.mem_append_left _ member
      rw [shape, split] at grown
      obtain ⟨r, member, here, i', same⟩ :=
        Store.first_before early_named grown (place_notMem_forerunners schema) (free p) found
      refine ⟨r, member, here, ?_⟩
      rw [same]
      exact stands i'

def standInRole : String := "apiVersion: rbac.authorization.k8s.io/v1\nkind: ClusterRole\n"

def standInName : String := "metadata:\n  name: x:ns:a:admin\n---\n"

def plainDefinition : String :=
  "apiVersion: apiextensions.k8s.io/v1beta1\nkind: CustomResourceDefinition\n"

def standInOutput : String :=
  standInRole ++ (standInName ++ (plainDefinition ++ (definitionName ++ sampleOutput)))

theorem standIn_runs :
    let after := ((sampleCluster standInOutput).run (complete "x" sampleRequest sampleJob)).2.store
    (∃ e ∈ after.entries, e ∉ sampleStore.entries ∧ e.object.IsSchemaDefinition) ∧
      ∀ r ∈ after.entries, r.place = Persona.admin.place sampleRequest "x" →
        (r.object.toResource ClusterRole).map (·.aggregationRule) = .ok none := by
  rw [(sample_completes _ _ _).1, standInOutput, String.toList_append, String.toList_append,
    String.toList_append, String.toList_append]
  decide +kernel

theorem sample_places_free (p : Persona) : p.place sampleRequest "x" ∉ sampleStore.places := by
  cases p <;> decide +kernel

theorem roles_before_definition_sample :
    ∃ front e back, ((sampleCluster standInOutput).run
        (complete "x" sampleRequest sampleJob)).2.store.entries =
          sampleStore.entries ++ (front ++ e :: back) ∧
      e.object.IsSchemaDefinition ∧
      ∀ p : Persona, ∃ r ∈ front, r.place = p.place sampleRequest "x" := by
  obtain ⟨⟨e, there, fresh, schema⟩, -⟩ := standIn_runs
  have calm : (sampleCluster standInOutput).Calm := calm_calm _ _ _
  have store := sampleCluster_store standInOutput
  have namespaced : sampleRequest.kind = .stackInstall := rfl
  -- what runs is kept from being evaluated
  generalize sampleCluster standInOutput = c at *
  have free : ∀ p : Persona, p.place sampleRequest "x" ∉ c.store.places := by
    rw [store]
    exact sample_places_free
  obtain ⟨new, grown, roles⟩ := roles_before_definition calm "x" namespaced sampleJob free
  rw [store] at grown
  have created : e ∈ new := by
    rw [grown] at there
    rcases List.mem_append.1 there with old | created
    · exact absurd old fresh
    · exact created
  obtain ⟨front, back, split⟩ := List.append_of_mem created
  obtain ⟨_, _, -, -, stand⟩ := roles front e back split schema
  refine ⟨front, e, back, by rw [grown, split], schema, fun p => ?_⟩
  obtain ⟨r, member, here, -⟩ := stand p
  exact ⟨r, member, here⟩

/-- A completion that creates a schema definition where the role of a persona is not the one that
is generated. -/
theorem role_stood_in_for :
    let c := sampleCluster standInOutput
    let after := (c.run (complete "x" sampleRequest sampleJob)).2.store
    c.Calm ∧ (∀ p : Persona, p.place sampleRequest "x" ∉ c.store.places) ∧
      (∃ e ∈ after.entries, e.object.IsSchemaDefinition) ∧
      ∀ r ∈ after.entries, r.place = Persona.admin.place sampleRequest "x" →
        ¬Persona.admin.Generated sampleRequest "x" r.object := by
  obtain ⟨⟨e, there, -, schema⟩, roles⟩ := standIn_runs
  have calm : (sampleCluster standInOutput).Calm := calm_calm _ _ _
  have store := sampleCluster_store standInOutput
  generalize sampleCluster standInOutput = c at *
  refine ⟨calm, ?_, ⟨e, there, schema⟩, ?_⟩
  · rw [store]
    exact sample_places_free
  · intro r member here generated
    have read := roles r member here
    rw [generated.reads] at read
    cases read

end Completion

end PackageInstall
