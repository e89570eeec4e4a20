import PackageInstall.Proofs.Aggregation
import PackageInstall.Proofs.StandIn
import PackageInstall.Proofs.TypedStore

namespace PackageInstall

namespace Store

variable {identities : Nat → Identity}

theorem mem_places_absorb {s : Store} {o : Object} (named : o.name ≠ "") (p : Place) :
    p ∈ (s.absorb identities o).places ↔ p ∈ s.places ∨ o.place = p := by
  by_cases taken : o.place ∈ s.places
  · rw [absorb_of_taken taken]
    refine ⟨.inl, fun there => ?_⟩
    rcases there with old | rfl
    · exact old
    · exact taken
  · simp [absorb_of_free named taken, places, eq_comm]

theorem mem_places_absorbAll {os : List Object} (named : ∀ o ∈ os, o.name ≠ "") (s : Store)
    (p : Place) :
    p ∈ (s.absorbAll identities os).places ↔ p ∈ s.places ∨ ∃ o ∈ os, o.place = p := by
  induction os generalizing s with
  | nil => simp [absorbAll]
  | cons o rest ih =>
    have step : s.absorbAll identities (o :: rest) =
      (s.absorb identities o).absorbAll identities rest := rfl
    have namedRest : ∀ o' ∈ rest, o'.name ≠ "" := fun o' member =>
      named o' (List.mem_cons_of_mem _ member)
    rw [step, ih namedRest, mem_places_absorb (named o List.mem_cons_self)]
    simp [or_assoc]

end Store

namespace Completion

open Cluster

theorem calm_createOnce [Resource α] {c : Cluster} (calm : c.Calm) {x : α}
    (faithful : Resource.Faithful x) (named : (Resource.object x).name ≠ "") :
    (c.run (createOnce (createTyped x))).1 =
      .ok (decide ((Resource.object x).place ∈ c.store.places)) := by
  rw [Completion.run_createOnce, (calm.run_createTyped faithful).1]
  by_cases taken : (Resource.object x).place ∈ c.store.places
  · rw [Store.create_of_taken _ named taken, decide_eq_true taken]
    rfl
  · rw [Store.create_of_free _ named taken, decide_eq_false taken]
    rfl

end Completion

namespace Persona

open Cluster Completion

variable {p q : Persona} {rolePrefix : String} {r₁ r₂ : InstallRequest}

theorem roles_of_namespaced {request : InstallRequest} (namespaced : request.kind = .stackInstall)
    (rolePrefix : String) :
    roles request rolePrefix = [admin, edit, view].map fun p => p.role request rolePrefix := by
  rw [roles, InstallRequest.scope, namespaced]
  rfl

def objectsOf (rolePrefix : String) (brought : List (Persona × InstallRequest)) : List Object :=
  brought.map fun b => Resource.object (b.1.role b.2 rolePrefix)

structure Identified (rolePrefix : String) (r₁ r₂ : InstallRequest) : Prop where
  /-- Two roles have one name only for one namespace and one persona. -/
  names : ∀ p q : Persona, p.role r₁ rolePrefix ∈ roles r₁ rolePrefix ∧
    q.role r₂ rolePrefix ∈ roles r₂ rolePrefix ∧
    ((p.role r₁ rolePrefix).name = (q.role r₂ rolePrefix).name ↔
      r₁.namespaceName = r₂.namespaceName ∧ p = q)
  distinct : ((roles r₁ rolePrefix).map ClusterRole.name).Nodup ∧ (roles r₁ rolePrefix).length = 3
  named : ∀ role ∈ roles r₁ rolePrefix, role.name ≠ ""
  /-- Where roles were created before, a role is found to exist only if it was one of them for the
  same namespace and persona, or if its place was taken before any of them. -/
  found : ∀ (q : Persona) (identities : Nat → Identity) (s : Store)
    (earlier : List (Persona × InstallRequest)) (c : Cluster), c.Calm →
    c.store = s.absorbAll identities (objectsOf rolePrefix earlier) →
    (c.run (createOnce (createTyped (q.role r₂ rolePrefix)))).1 =
      .ok (decide (q.place r₂ rolePrefix ∈ s.places ∨
        ∃ e ∈ earlier, e.2.namespaceName = r₂.namespaceName ∧ e.1 = q))

theorem faithful_role (p : Persona) (request : InstallRequest) (rolePrefix : String) :
    Resource.Faithful (p.role request rolePrefix) :=
  ClusterRole.faithful (.of_rest (role_rest p request rolePrefix))

/-- The name of a role tells its namespace and its persona. -/
theorem role_names_identify (rolePrefix : String) (first : r₁.kind = .stackInstall)
    (second : r₂.kind = .stackInstall) : Identified rolePrefix r₁ r₂ where
  names p q := ⟨p.role_mem_roles rolePrefix first, q.role_mem_roles rolePrefix second,
    roleName_inj⟩
  distinct := by
    have apart : ∀ p q : Persona, p ≠ q →
        (p.role r₁ rolePrefix).name ≠ (q.role r₁ rolePrefix).name :=
      fun p q differ same => differ (roleName_inj.1 same).2
    simp [roles_of_namespaced first, apart]
  named role member := by
    obtain ⟨p, rfl⟩ := exists_of_mem_roles member
    exact p.role_name_ne r₁ rolePrefix
  found q identities s earlier c calm store := by
    have named : ∀ o ∈ objectsOf rolePrefix earlier, o.name ≠ "" := by
      intro o member
      obtain ⟨e, -, rfl⟩ := List.mem_map.1 member
      exact e.1.role_name_ne e.2 rolePrefix
    rw [calm_createOnce calm (q.faithful_role r₂ rolePrefix) (q.role_name_ne r₂ rolePrefix),
      store, place_object]
    congr 1
    rw [decide_eq_decide, Store.mem_places_absorbAll named]
    simp [objectsOf, place_object, place_eq_iff]

def sampleBrought : Cluster :=
  Resource.sampleCluster <| Store.empty.absorbAll (fun _ => Resource.sampleIdentity) <|
    objectsOf "crossplane" (all.map fun p => (p, sampleTeam "team"))

theorem sampleBrought_calm : sampleBrought.Calm := Resource.sampleCluster_calm _

/-- A namespace that is spelled like a part of a role's name is told from the one before it. -/
theorem role_names_identify_sample :
    (sampleTeam "team").kind = .stackInstall ∧ (sampleTeam "team:admin").kind = .stackInstall ∧
      (view.role (sampleTeam "team") "crossplane").name ≠
        (view.role (sampleTeam "team:admin") "crossplane").name ∧
      (sampleBrought.run (createOnce
        (createTyped (view.role (sampleTeam "team") "crossplane")))).1 = .ok true ∧
      (sampleBrought.run (createOnce
        (createTyped (view.role (sampleTeam "team:admin") "crossplane")))).1 = .ok false := by
  have namespaced : (sampleTeam "team").kind = .stackInstall := rfl
  have namespaced' : (sampleTeam "team:admin").kind = .stackInstall := rfl
  have identified := role_names_identify "crossplane" namespaced namespaced'
  have again := role_names_identify "crossplane" namespaced namespaced
  have differ : (sampleTeam "team").namespaceName ≠ (sampleTeam "team:admin").namespaceName := by
    decide
  refine ⟨namespaced, namespaced', ?_, ?_, ?_⟩
  · exact fun same => differ ((identified.names view view).2.2.1 same).1
  · rw [again.found view _ .empty _ sampleBrought sampleBrought_calm rfl]
    simp [all]
  · rw [identified.found view _ .empty _ sampleBrought sampleBrought_calm rfl]
    simp [all, differ, Store.places, Store.empty]

end Persona

end PackageInstall
