import PackageInstall.Proofs.Record
import PackageInstall.Proofs.Sweep

namespace PackageInstall

namespace Store

/-- What becomes of a store: objects come with new numbers only, and none is changed. -/
structure LeadsTo (s t : Store) : Prop where
  fresh : ∀ e ∈ t.entries, e ∈ s.entries ∨ s.issued ≤ e.sequence
  issued : s.issued ≤ t.issued

namespace LeadsTo

theorem refl (s : Store) : s.LeadsTo s := ⟨fun _ member => .inl member, Nat.le_refl _⟩

theorem trans {s t u : Store} (first : s.LeadsTo t) (second : t.LeadsTo u) : s.LeadsTo u where
  fresh e member := by
    rcases second.fresh e member with earlier | later
    · exact first.fresh e earlier
    · exact .inr (Nat.le_trans first.issued later)
  issued := Nat.le_trans first.issued second.issued

theorem absorb (s : Store) (identities : Nat → Identity) (o : Object) :
    s.LeadsTo (s.absorb identities o) := by
  by_cases nameless : o.name = ""
  · rw [absorb_of_nameless nameless]
    exact refl s
  · by_cases taken : o.place ∈ s.places
    · rw [absorb_of_taken taken]
      exact refl s
    · rw [absorb_of_free nameless taken]
      refine ⟨fun e member => ?_, Nat.le_succ _⟩
      rcases List.mem_append.1 member with old | new
      · exact .inl old
      · rw [List.mem_singleton.1 new]
        exact .inr (Nat.le_refl _)

theorem without (s : Store) (t : Coordinates) (k : ObjectKey) : s.LeadsTo (s.without t k) :=
  ⟨fun _ member => .inl (mem_without.1 member).1, Nat.le_refl _⟩

end LeadsTo

theorem Reachable.sequence_lt {s : Store} (reachable : s.Reachable) :
    ∀ e ∈ s.entries, e.sequence < s.issued := by
  induction reachable with
  | empty => exact fun e member => absurd member List.not_mem_nil
  | @create s created o stored i _ done ih =>
    by_cases nameless : o.name = ""
    · rw [create_of_nameless i nameless] at done
      cases done
    · by_cases taken : o.place ∈ s.places
      · rw [create_of_taken i nameless taken] at done
        cases done
      · rw [create_of_free i nameless taken] at done
        cases done
        intro e member
        rcases List.mem_append.1 member with old | new
        · exact Nat.lt_succ_of_lt (ih e old)
        · rw [List.mem_singleton.1 new]
          exact Nat.lt_succ_self _
  | @delete s left t k _ done ih =>
    unfold Store.delete at done
    split at done
    · cases done
      exact fun e member => ih e (mem_without.1 member).1
    · cases done

theorem Kept.coordinates_eq {s : Store} (kept : s.Kept) {e : Entry} (stored : e ∈ s.entries) :
    e.coordinates = e.object.coordinates := congrArg Prod.fst (kept.keyed e stored)

def numbers (s : Store) : List Nat := s.entries.map (·.sequence)

end Store

namespace Cluster

theorem leadsTo_creating (c : Cluster) (o : Object) : c.store.LeadsTo (c.creating o).store := by
  unfold creating
  split
  · exact .refl _
  · exact .absorb _ _ o

theorem leadsTo_after (c : Cluster) (a : Act) : c.store.LeadsTo (a.after c).store := by
  cases a with
  | create o told => exact leadsTo_creating c o
  | fetch o told => exact .refl _
  | refuse e => exact .refl _

theorem leadsTo_afterAgenda (c : Cluster) (acts : Agenda) :
    c.store.LeadsTo (c.afterAgenda acts).store := by
  induction acts generalizing c with
  | nil => exact .refl _
  | cons a rest ih =>
    simp only [afterAgenda]
    cases a.error? c with
    | some e => exact leadsTo_after c a
    | none => exact (leadsTo_after c a).trans (ih _)

theorem leadsTo_afterSteps (c : Cluster) (steps : List Step) :
    c.store.LeadsTo (c.afterSteps steps).store where
  fresh _ member := .inl ((sublist_afterSteps c steps).subset member)
  issued := Nat.le_of_eq (afterSteps_issued c steps).symm

theorem reachable_afterSteps {c : Cluster} (reachable : c.store.Reachable) (steps : List Step) :
    (c.afterSteps steps).store.Reachable := by
  induction steps generalizing c with
  | nil => exact reachable
  | cons s rest ih =>
    refine ih ?_
    cases s with
    | listing t selector => exact reachable
    | deletion t k =>
      simp only [Step.after, deleting]
      split
      · exact reachable
      · exact reachable.without t k

theorem reachable_creating {c : Cluster} (reachable : c.store.Reachable) (o : Object) :
    (c.creating o).store.Reachable := by
  unfold creating
  split
  · exact reachable
  · exact reachable.absorb _ _

theorem store_createTyped {α : Type} [Resource α] (c : Cluster) (x : α) :
    (c.run (createTyped x)).2.store = c.store ∨
      ∃ o, (c.run (createTyped x)).2.store = (c.creating o).store := by
  unfold createTyped
  rw [run_bind, run_converted]
  cases Resource.toObject x with
  | error e => exact .inl rfl
  | ok o =>
    have plain : (Except.ok o : Except ConversionError Object).mapError StoreError.conversion =
      .ok o := rfl
    obtain ⟨notes, created⟩ := run_create c o
    right
    refine ⟨o, ?_⟩
    rw [plain]
    simp only [run_bind, created]
    cases c.createReply o with
    | error e => rfl
    | ok stored =>
      simp only [run_converted]
      rfl

theorem reachable_createTyped {α : Type} [Resource α] {c : Cluster}
    (reachable : c.store.Reachable) (x : α) : (c.run (createTyped x)).2.store.Reachable := by
  rcases store_createTyped c x with same | ⟨o, same⟩
  · exact same ▸ reachable
  · exact same ▸ reachable_creating reachable o

end Cluster

namespace Provenance

theorem ofParent_eq_iff {q r : InstallRequest} : ofParent q = ofParent r ↔
    q.kind = r.kind ∧ q.namespaceName = r.namespaceName ∧ q.name = r.name ∧ q.uid = r.uid := by
  have kinds : q.kind.name = r.kind.name ↔ q.kind = r.kind := by
    cases q.kind <;> cases r.kind <;> simp [InstallKind.name]
  have parts : ofParent q = ofParent r ↔ q.kind.name = r.kind.name ∧
      q.namespaceName = r.namespaceName ∧ q.name = r.name ∧ q.uid = r.uid := by
    simp [ofParent, Resource.coordinates, Resource.metadata, InstallRequest.coordinates,
      InstallRequest.namespaceName, InstallRequest.name, InstallRequest.uid]
  rw [parts, kinds]

end Provenance

theorem Persona.provenance_role (p : Persona) (request : InstallRequest) (rolePrefix : String) :
    (Provenance.ofParent request).Borne (p.role request rolePrefix).metadata.labels :=
  (Provenance.borne_labels _).addLabels _

theorem Completion.Origin.provenance {rolePrefix : String} {request : InstallRequest}
    {items : List Documents.Item} {o : Object} (origin : Origin rolePrefix request items o) :
    (Provenance.ofParent request).Borne o.metadata.labels := by
  cases origin with
  | role i _ _ member =>
    rw [Persona.roleObjects_eq] at member
    obtain ⟨r, known, rfl⟩ := List.mem_map.1 member
    obtain ⟨p, rfl⟩ := Persona.exists_of_mem_roles known
    exact p.provenance_role request rolePrefix
  | document _ made => exact made.provenance

inductive Deed where
  | complete (rolePrefix : String) (request : InstallRequest) (job : Job)
  | provision (rolePrefix : String) (request : InstallRequest)
  | addPod (job : Job) (name : String)
  | sweep (request : InstallRequest) (types : List Coordinates)

namespace Deed

open Cluster

def after (c : Cluster) : Deed → Cluster
  | complete rolePrefix request job => (c.run (Completion.complete rolePrefix request job)).2
  | provision rolePrefix request => (c.run (Completion.createRoles request rolePrefix)).2
  | addPod job name => (c.run (createTyped (Pod.ofJob job name))).2
  | sweep request types => (c.run (Sweep.sweep request types)).2

def creator? : Deed → Option InstallRequest
  | complete _ request _ | provision _ request => some request
  | addPod _ _ | sweep _ _ => none

/-- What a deed makes of a store: what it creates is labelled on behalf of its request. -/
structure Makes (d : Deed) (s t : Store) : Prop where
  reachable : t.Reachable
  leadsTo : s.LeadsTo t
  labelled : ∀ q, d.creator? = some q → ∀ e ∈ t.entries, e ∉ s.entries →
    (Provenance.ofParent q).Borne e.object.metadata.labels

theorem makes_afterAgenda {c : Cluster} (reachable : c.store.Reachable) {d : Deed} {acts : Agenda}
    (labels : ∀ q, d.creator? = some q → ∀ o told, .create o told ∈ acts →
      (Provenance.ofParent q).Borne o.metadata.labels) :
    d.Makes c.store (c.afterAgenda acts).store where
  reachable := reachable_afterAgenda reachable acts
  leadsTo := leadsTo_afterAgenda c acts
  labelled q creator e member new := by
    obtain ⟨later, grown, created⟩ := entries_afterAgenda c acts
    rw [grown] at member
    rcases List.mem_append.1 member with old | there
    · exact absurd old new
    · obtain ⟨o, told, act, same⟩ := created e there
      rw [same]
      exact labels q creator o told act

theorem makes_of_same {d : Deed} {s t u : Store} (same : u = t) (makes : d.Makes s t) :
    d.Makes s u := by
  rw [same]
  exact makes

theorem makes_uncredited {d : Deed} {s t : Store} (uncredited : d.creator? = none)
    (reachable : t.Reachable) (leadsTo : s.LeadsTo t) : d.Makes s t where
  reachable := reachable
  leadsTo := leadsTo
  labelled q creator := by
    rw [uncredited] at creator
    cases creator

theorem makes_nothing {s : Store} (d : Deed) (reachable : s.Reachable) : d.Makes s s where
  reachable := reachable
  leadsTo := .refl s
  labelled _ _ _ member new := absurd member new

theorem makes_after {c : Cluster} (reachable : c.store.Reachable) (d : Deed) :
    d.Makes c.store (d.after c).store := by
  cases d with
  | complete rolePrefix request job =>
    rcases Completion.complete_cases c rolePrefix request job with
      ⟨-, store⟩ | ⟨pod, output, -, -, -, store⟩
    · exact makes_of_same store (makes_nothing _ reachable)
    · let begun := Completion.calling c
        (Completion.readingCalls c job ⟨job.metadata.namespaceName, pod.name⟩)
      have begins : begun.store.Reachable := reachable
      refine makes_of_same store (makes_afterAgenda begins ?_)
      rintro q creator o told act
      obtain rfl := Option.some_inj.1 creator
      exact (Completion.origin_of_mem_agenda act (c.identities 0)).provenance
  | provision rolePrefix request =>
    let told : String × StoreError → InstallError := fun failed =>
      .createClusterRole failed.1 request.name failed.2
    obtain ⟨⟨notes, left⟩, -⟩ := Completion.performs_createEach c told
      fun r (member : r ∈ Persona.roles request rolePrefix) => member
    have store : ((provision rolePrefix request).after c).store =
        (c.afterAgenda (Completion.roleActs told
          ((Persona.roles request rolePrefix).map Resource.object))).store := by
      show (c.run (Completion.named told (Completion.createEach _))).2.store = _
      rw [left]
      rfl
    refine makes_of_same store (makes_afterAgenda reachable ?_)
    rintro q creator o told' act
    obtain rfl := Option.some_inj.1 creator
    obtain ⟨r, isObject, same⟩ := List.mem_map.1 act
    obtain ⟨rfl, -⟩ := Act.create.inj same
    obtain ⟨role, known, rfl⟩ := List.mem_map.1 isObject
    obtain ⟨p, rfl⟩ := Persona.exists_of_mem_roles known
    exact p.provenance_role request rolePrefix
  | addPod job name =>
    rcases store_createTyped c (Pod.ofJob job name) with store | ⟨o, store⟩
    · exact makes_of_same store (makes_nothing _ reachable)
    · exact makes_of_same store
        (makes_uncredited rfl (reachable_creating reachable o) (leadsTo_creating c o))
  | sweep request types =>
    obtain ⟨steps, takes, -⟩ := Sweep.takes_sweep request reachable.kept types
    exact makes_of_same takes.store
      (makes_uncredited rfl (reachable_afterSteps reachable steps) (leadsTo_afterSteps c steps))

end Deed

structure Turn where
  deed : Deed
  around : Cluster

def Turn.on (t : Turn) (s : Store) : Cluster := { t.around with store := s }

def Turn.after (t : Turn) (s : Store) : Store := (t.deed.after (t.on s)).store

namespace Store

def afterTurns (s : Store) (turns : List Turn) : Store := turns.foldl (fun s t => t.after s) s

theorem afterTurns_append (s : Store) (front back : List Turn) :
    s.afterTurns (front ++ back) = (s.afterTurns front).afterTurns back := List.foldl_append

theorem makes_turn {s : Store} (reachable : s.Reachable) (t : Turn) :
    t.deed.Makes s (t.after s) := by
  have begins : (t.on s).store.Reachable := reachable
  exact Deed.makes_after begins t.deed

theorem reachable_afterTurns {s : Store} (reachable : s.Reachable) (turns : List Turn) :
    (s.afterTurns turns).Reachable := by
  induction turns generalizing s with
  | nil => exact reachable
  | cons t rest ih => exact ih (makes_turn reachable t).reachable

theorem leadsTo_afterTurns {s : Store} (reachable : s.Reachable) (turns : List Turn) :
    s.LeadsTo (s.afterTurns turns) := by
  induction turns generalizing s with
  | nil => exact .refl s
  | cons t rest ih =>
    have first := makes_turn reachable t
    exact first.leadsTo.trans (ih first.reachable)

def CreatedFor (s : Store) (turns : List Turn) (q : InstallRequest) (number : Nat) : Prop :=
  ∃ front t back, turns = front ++ t :: back ∧ t.deed.creator? = some q ∧
    number ∉ (s.afterTurns front).numbers ∧ number ∈ (t.after (s.afterTurns front)).numbers

theorem borne_of_createdFor {s : Store} (reachable : s.Reachable) {turns : List Turn}
    {q : InstallRequest} {e : Entry} (live : e ∈ (s.afterTurns turns).entries)
    (created : s.CreatedFor turns q e.sequence) :
    (Provenance.ofParent q).Borne e.object.metadata.labels := by
  obtain ⟨front, t, back, rfl, creator, absent, there⟩ := created
  have before := reachable_afterTurns reachable front
  have makes := makes_turn before t
  have split : s.afterTurns (front ++ t :: back) =
      (t.after (s.afterTurns front)).afterTurns back := afterTurns_append s front (t :: back)
  obtain ⟨e', stored, number⟩ := List.mem_map.1 there
  have issued : e.sequence < (t.after (s.afterTurns front)).issued := by
    rw [← number]
    exact makes.reachable.sequence_lt e' stored
  rw [split] at live
  have early : e ∈ (t.after (s.afterTurns front)).entries := by
    rcases (leadsTo_afterTurns makes.reachable back).fresh e live with early | late
    · exact early
    · exact absurd issued (Nat.not_lt.2 late)
  have new : e ∉ (s.afterTurns front).entries := fun old => absent (List.mem_map_of_mem old)
  exact makes.labelled q creator e early new

end Store

namespace Sweep

open Cluster

theorem mem_calm_sweep {c : Cluster} (calm : c.Calm) (kept : c.store.Kept)
    (request : InstallRequest) (types : List Coordinates) {e : Store.Entry} :
    e ∈ (c.run (sweep request types)).2.store.entries ↔
      e ∈ c.store.entries ∧ ¬Marked request types e := by
  rw [(calm_sweep calm kept request types).2]
  simp [cleared]

/-- A sweep where no call fails removes what was created for a request exactly if its type is swept
and the sweep is for a request of the same kind, namespace, name and identity. Whatever else was
done, before or since, makes no difference. -/
theorem removed_iff_creator {s : Store} (reachable : s.Reachable) {turns : List Turn}
    {q : InstallRequest} {e : Store.Entry} (live : e ∈ (s.afterTurns turns).entries)
    (created : s.CreatedFor turns q e.sequence) {d : Cluster} (calm : d.Calm)
    (continued : d.store = s.afterTurns turns) (r : InstallRequest) (types : List Coordinates) :
    e ∉ (d.run (sweep r types)).2.store.entries ↔
      e.object.coordinates ∈ types ∧ q.kind = r.kind ∧ q.namespaceName = r.namespaceName ∧
        q.name = r.name ∧ q.uid = r.uid := by
  have kept : d.store.Kept := by
    rw [continued]
    exact (Store.reachable_afterTurns reachable turns).kept
  have stored : e ∈ d.store.entries := by
    rw [continued]
    exact live
  have borne := Store.borne_of_createdFor reachable live created
  have agree : (Provenance.ofParent r).Borne e.object.metadata.labels ↔
      Provenance.ofParent q = Provenance.ofParent r := by
    constructor
    · intro borne'
      exact borne.eq borne'
    · intro same
      rw [← same]
      exact borne
  rw [mem_calm_sweep calm kept, ← Provenance.ofParent_eq_iff, ← agree,
    ← kept.coordinates_eq stored]
  constructor
  · intro gone
    by_contra unmarked
    exact gone ⟨stored, unmarked⟩
  · intro marked there
    exact there.2 marked

/-- The output of a package that lays itself to the charge of another request. -/
def forgedOutput : String :=
  Completion.sampleOutput ++ "metadata:\n  labels:\n    core.crossplane.io/parent-uid: anew\n"

def forgedRecord : Store.Entry :=
  let labels := KeyMap.ofList [("core.crossplane.io/parent-uid", "anew")]
  let document : Object :=
    ⟨"stacks.crossplane.io/v1alpha1", "Stack", { Metadata.empty with labels := labels }, .empty⟩
  Store.entryOf (Completion.materialized Completion.sampleRequest document)
    (Completion.sampleIdentities 1) 1

def sampleTurn (request : InstallRequest) : Turn :=
  ⟨.complete "x" request Completion.sampleJob, Completion.sampleCluster forgedOutput⟩

def sampleTurns : List Turn :=
  [sampleTurn Completion.sampleRequest, sampleTurn Completion.sampleOther]

def sampleAround (s : Store) : Cluster := .calm s .empty Completion.sampleIdentities

theorem sampleAround_store (s : Store) : (sampleAround s).store = s := rfl

theorem sampleAround_calm (s : Store) : (sampleAround s).Calm := Completion.calm_calm _ _ _

theorem removed_iff_creator_sample :
    let after := Completion.sampleStore.afterTurns sampleTurns
    forgedRecord ∈ after.entries ∧
      forgedRecord ∉ ((sampleAround after).run
        (sweep Completion.sampleRequest [Coordinates.stack])).2.store.entries ∧
      forgedRecord ∈ ((sampleAround after).run
        (sweep Completion.sampleOther [Coordinates.stack])).2.store.entries := by
  have known : forgedRecord ∈ (Completion.sampleStore.afterTurns sampleTurns).entries ∧
      1 ∉ Completion.sampleStore.numbers ∧
      1 ∈ ((sampleTurn Completion.sampleRequest).after Completion.sampleStore).numbers ∧
      forgedRecord.sequence = 1 ∧
      forgedRecord.object.coordinates = Coordinates.stack := by
    decide +kernel
  obtain ⟨live, absent, there, number, type⟩ := known
  have created : Completion.sampleStore.CreatedFor sampleTurns Completion.sampleRequest
      forgedRecord.sequence := by
    rw [number]
    exact ⟨[], sampleTurn Completion.sampleRequest, _, rfl, rfl, absent, there⟩
  have goes := removed_iff_creator Completion.sampleStore_reachable live created
    (sampleAround_calm _) (sampleAround_store _)
  refine ⟨live, ?_, ?_⟩
  · rw [goes, type]
    decide
  · by_contra gone
    rw [goes, type] at gone
    exact absurd gone (by decide)

end Sweep

end PackageInstall
