import PackageInstall.Proofs.Agenda

namespace PackageInstall

namespace Act

def namelessError (o : Object) : StoreError := .invalid (o.kind ++ " object has no name")

end Act

namespace Agenda

open Act

/-- The objects to create up to the end or to an object without a name, and the error that the
agenda then ends with. -/
def plan : Agenda → List Object × Option InstallError
  | [] => ([], none)
  | .create o told :: rest =>
    if o.name = "" then ([], some (told (namelessError o))) else (o :: (plan rest).1, (plan rest).2)
  | .fetch _ _ :: rest => plan rest
  | .refuse e :: _ => ([], some e)

theorem plan_append (front back : Agenda) :
    plan (front ++ back) =
      match (plan front).2 with
      | some e => ((plan front).1, some e)
      | none => ((plan front).1 ++ (plan back).1, (plan back).2) := by
  induction front with
  | nil => rfl
  | cons a rest ih =>
    cases a with
    | create o told =>
      simp only [List.cons_append, plan, ih]
      split
      · rfl
      · cases (plan rest).2 <;> rfl
    | fetch o told => exact ih
    | refuse e => rfl

theorem name_ne_of_mem_plan {acts : Agenda} {o : Object} (member : o ∈ (plan acts).1) :
    o.name ≠ "" := by
  induction acts with
  | nil => cases member
  | cons a rest ih =>
    cases a with
    | create o' told =>
      unfold plan at member
      split at member
      · cases member
      · rename_i named
        rcases List.mem_cons.1 member with rfl | later
        · exact named
        · exact ih later
    | fetch o' told => exact ih member
    | refuse e => cases member

inductive Grounded : List Place → Agenda → Prop where
  | nil {known : List Place} : Grounded known []
  | create {known : List Place} {o : Object} {told : StoreError → InstallError} {rest : Agenda} :
    Grounded (o.place :: known) rest → Grounded known (.create o told :: rest)
  | fetch {known : List Place} {o : Object} {told : StoreError → InstallError} {rest : Agenda} :
    o.place ∈ known → Grounded known rest → Grounded known (.fetch o told :: rest)
  | refuse {known : List Place} {e : InstallError} {rest : Agenda} :
    Grounded known rest → Grounded known (.refuse e :: rest)

theorem Grounded.mono {known known' : List Place} (more : known ⊆ known') {acts : Agenda}
    (grounded : Grounded known acts) : Grounded known' acts := by
  induction grounded generalizing known' with
  | nil => exact .nil
  | create _ ih => exact .create (ih (List.cons_subset_cons _ more))
  | fetch member _ ih => exact .fetch (more member) (ih more)
  | refuse _ ih => exact .refuse (ih more)

theorem Grounded.append {known : List Place} {front back : Agenda} (first : Grounded known front)
    (second : Grounded known back) : Grounded known (front ++ back) := by
  induction first with
  | nil => exact second
  | create _ ih => exact .create (ih (second.mono (List.subset_cons_self _ _)))
  | fetch member _ ih => exact .fetch member (ih second)
  | refuse _ ih => exact .refuse (ih second)

end Agenda

namespace Cluster

open Act Agenda

/-- A cluster where no call to the store fails by pretending that an object exists. -/
def Truthful (c : Cluster) : Prop :=
  ∀ n call e, c.faults n call = some (.fails e) → e.isAlreadyExists = false

/-- A cluster where no call fails of itself. -/
structure Calm (c : Cluster) : Prop where
  faults : ∀ n call, c.faults n call = none
  logFaults : ∀ n call, c.logFaults n call = none

theorem Calm.truthful {c : Cluster} (calm : c.Calm) : c.Truthful := by
  intro n call e fault
  rw [calm.faults] at fault
  cases fault

theorem Calm.after {c : Cluster} (calm : c.Calm) (a : Act) : (a.after c).Calm := by
  cases a <;> exact ⟨calm.faults, calm.logFaults⟩

theorem Truthful.after {c : Cluster} (truthful : c.Truthful) (a : Act) :
    (a.after c).Truthful := by
  cases a <;> exact truthful

theorem after_identities (c : Cluster) (a : Act) : (a.after c).identities = c.identities := by
  cases a <;> rfl

theorem creating_store_of_refused {c : Cluster} {o : Object} {e : StoreError}
    (refused : c.refusal? o = some e) : (c.creating o).store = c.store := by
  unfold refusal? createReply at refused
  unfold creating
  cases failure : c.failure? (.create o.coordinates (.ofObject o)) with
  | some e' => rfl
  | none =>
    simp only [failure] at refused ⊢
    unfold Store.absorb
    cases created : c.store.create o (c.identities c.store.issued) with
    | error e' => rfl
    | ok result => simp [created, Except.map] at refused

theorem Truthful.creating_store {c : Cluster} (truthful : c.Truthful) {o : Object}
    (accepted : c.refusal? o = none) :
    o.name ≠ "" ∧ (c.creating o).store = c.store.absorb c.identities o := by
  unfold refusal? createReply at accepted
  unfold creating
  cases failure : c.failure? (.create o.coordinates (.ofObject o)) with
  | some e =>
    exfalso
    simp only [failure] at accepted
    have fault : c.faults c.journal.length (.create o.coordinates (.ofObject o)) =
        some (.fails e) := by
      unfold failure? at failure
      split at failure
      · cases failure
        assumption
      · cases failure
    simp [truthful _ _ _ fault] at accepted
  | none =>
    simp only [failure] at accepted
    refine ⟨fun nameless => ?_, rfl⟩
    rw [Store.create_of_nameless _ nameless] at accepted
    simp [Except.map, StoreError.isAlreadyExists] at accepted

/-- Where calls fail, the first of the planned objects are created, and no others. -/
theorem Truthful.afterAgenda_store {c : Cluster} (truthful : c.Truthful) (acts : Agenda) :
    ∃ done, done <+: (plan acts).1 ∧
      (c.afterAgenda acts).store = c.store.absorbAll c.identities done := by
  induction acts generalizing c with
  | nil => exact ⟨[], List.prefix_rfl, rfl⟩
  | cons a rest ih =>
    obtain ⟨done, first, store⟩ := ih (truthful.after a)
    rw [after_identities] at store
    cases a with
    | create o told =>
      simp only [afterAgenda, error?, plan]
      cases refused : c.refusal? o with
      | some e => exact ⟨[], List.nil_prefix, creating_store_of_refused refused⟩
      | none =>
        obtain ⟨named, created⟩ := truthful.creating_store refused
        rw [if_neg named]
        refine ⟨o :: done, (List.prefix_cons_inj o).2 first, ?_⟩
        exact store.trans (congrArg (Store.absorbAll c.identities · done) created)
    | fetch o told =>
      simp only [afterAgenda, error?]
      cases c.findReply o.coordinates (.ofObject o) with
      | error e => exact ⟨[], List.nil_prefix, rfl⟩
      | ok stored => exact ⟨done, first, store⟩
    | refuse e => exact ⟨[], List.prefix_rfl, rfl⟩

theorem Calm.failure?_eq {c : Cluster} (calm : c.Calm) (call : Call) : c.failure? call = none := by
  simp [failure?, calm.faults]

theorem Calm.refusal?_eq {c : Cluster} (calm : c.Calm) (o : Object) :
    c.refusal? o = if o.name = "" then some (namelessError o) else none := by
  unfold refusal? createReply
  rw [calm.failure?_eq]
  by_cases nameless : o.name = ""
  · simp only [Store.create_of_nameless _ nameless, if_pos nameless]
    rfl
  · rw [if_neg nameless]
    by_cases taken : o.place ∈ c.store.places
    · simp only [Store.create_of_taken _ nameless taken]
      rfl
    · simp only [Store.create_of_free _ nameless taken]
      rfl

theorem Calm.findReply_eq {c : Cluster} (calm : c.Calm) {o : Object}
    (there : o.place ∈ c.store.places) :
    ∃ stored, c.findReply o.coordinates (.ofObject o) = .ok stored := by
  unfold findReply Store.get
  rw [calm.failure?_eq]
  obtain ⟨stored, found⟩ := Option.isSome_iff_exists.1 (Store.find?_isSome_iff.2 there)
  exact ⟨stored, by simp only [found]⟩

theorem Calm.afterAgenda {c : Cluster} (calm : c.Calm) {acts : Agenda} {known : List Place}
    (held : known ⊆ c.store.places) (grounded : Grounded known acts) :
    (c.afterAgenda acts).store = c.store.absorbAll c.identities (plan acts).1 ∧
      c.agendaError? acts = (plan acts).2 := by
  induction grounded generalizing c with
  | nil => exact ⟨rfl, rfl⟩
  | @create known o told rest grounded ih =>
    simp only [Cluster.afterAgenda, agendaError?, error?, plan, calm.refusal?_eq]
    by_cases nameless : o.name = ""
    · simp only [if_pos nameless, Option.map_some]
      have refused : c.refusal? o = some (namelessError o) := by
        rw [calm.refusal?_eq, if_pos nameless]
      exact ⟨creating_store_of_refused refused, trivial⟩
    · simp only [if_neg nameless, Option.map_none]
      have accepted : c.refusal? o = none := by rw [calm.refusal?_eq, if_neg nameless]
      obtain ⟨named, created⟩ := calm.truthful.creating_store accepted
      have held' : o.place :: known ⊆ (c.creating o).store.places := by
        rw [created]
        refine List.cons_subset.2 ⟨Store.place_mem_absorb named, ?_⟩
        exact List.Subset.trans held
          (Store.places_subset_of_grown (Store.entries_prefix_absorb _ o))
      obtain ⟨store, failure⟩ := ih (calm.after (.create o told)) held'
      refine ⟨store.trans ?_, failure⟩
      exact congrArg (Store.absorbAll c.identities · (plan rest).1) created
  | @fetch known o told rest member grounded ih =>
    obtain ⟨stored, found⟩ := calm.findReply_eq (held member)
    obtain ⟨store, failure⟩ := ih (calm.after (.fetch o told)) held
    simp only [Cluster.afterAgenda, agendaError?, error?, found, plan]
    exact ⟨store, failure⟩
  | refuse => exact ⟨rfl, rfl⟩

end Cluster

end PackageInstall
