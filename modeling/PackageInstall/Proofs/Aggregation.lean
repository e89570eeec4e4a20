import Mathlib.Logic.Relation
import PackageInstall.Proofs.Persona
import PackageInstall.Proofs.Provenance

namespace PackageInstall

def ClusterRole.Collects (r : ClusterRole) (labels : Labels) : Prop :=
  ∃ rule, r.aggregationRule = some rule ∧ rule.collects labels = true

namespace Provenance

theorem namespaceLabel_inj {a b : String} : namespaceLabel a = namespaceLabel b ↔ a = b := by
  simp [namespaceLabel]

end Provenance

namespace Persona

open Provenance (namespaceLabel)

def offer (p : Persona) : String := "rbac.crossplane.io/aggregate-to-namespace-" ++ p.name

def defaultOffer (p : Persona) : String :=
  "rbac.crossplane.io/aggregate-to-namespace-default-" ++ p.name

def Offered (p : Persona) (namespaceName : String) (labels : Labels) : Prop :=
  labels.get? p.offer = some "true" ∧ labels.get? (namespaceLabel namespaceName) = some "true" ∨
    labels.get? p.defaultOffer = some "true"

def Foreign (p : Persona) (namespaceName key : String) : Prop :=
  (∃ other, other ≠ namespaceName ∧ key = namespaceLabel other) ∨
    ∃ q : Persona, q ≠ p ∧ (key = q.offer ∨ key = q.defaultOffer)

variable (p q : Persona) (namespaceName : String)

theorem head?_offer : p.offer.toList.head? = some 'r' := by cases p <;> decide

theorem head?_defaultOffer : p.defaultOffer.toList.head? = some 'r' := by
  cases p <;> decide

theorem ne_namespaceLabel {key : String} (first : key.toList.head? = some 'r') :
    key ≠ namespaceLabel namespaceName := by
  rintro rfl
  rw [Provenance.head?_namespaceLabel] at first
  exact absurd first (by decide)

theorem offer_ne_defaultOffer : p.offer ≠ q.defaultOffer := by
  cases p <;> cases q <;> decide

theorem offer_inj {p q : Persona} : p.offer = q.offer ↔ p = q := by
  cases p <;> cases q <;> decide

theorem defaultOffer_inj {p q : Persona} : p.defaultOffer = q.defaultOffer ↔ p = q := by
  cases p <;> cases q <;> decide

theorem offer_notMem_keys : p.offer ∉ Provenance.keys := by cases p <;> decide

theorem defaultOffer_notMem_keys : p.defaultOffer ∉ Provenance.keys := by cases p <;> decide

theorem not_foreign_namespaceLabel : ¬p.Foreign namespaceName (namespaceLabel namespaceName) := by
  rintro (⟨other, differs, same⟩ | ⟨q, -, same | same⟩)
  · exact differs (Provenance.namespaceLabel_inj.1 same).symm
  · exact ne_namespaceLabel namespaceName q.head?_offer same.symm
  · exact ne_namespaceLabel namespaceName q.head?_defaultOffer same.symm

theorem not_foreign_offer : ¬p.Foreign namespaceName p.offer := by
  rintro (⟨other, -, same⟩ | ⟨q, differs, same | same⟩)
  · exact ne_namespaceLabel other p.head?_offer same
  · exact differs (offer_inj.1 same).symm
  · exact p.offer_ne_defaultOffer q same

theorem not_foreign_defaultOffer : ¬p.Foreign namespaceName p.defaultOffer := by
  rintro (⟨other, -, same⟩ | ⟨q, differs, same | same⟩)
  · exact ne_namespaceLabel other p.head?_defaultOffer same
  · exact q.offer_ne_defaultOffer p same.symm
  · exact differs (defaultOffer_inj.1 same).symm

theorem offered_congr {labels labels' : Labels}
    (same : ∀ k, ¬p.Foreign namespaceName k → labels.get? k = labels'.get? k) :
    p.Offered namespaceName labels ↔ p.Offered namespaceName labels' := by
  rw [Offered, Offered, same _ (p.not_foreign_offer namespaceName),
    same _ (p.not_foreign_namespaceLabel namespaceName),
    same _ (p.not_foreign_defaultOffer namespaceName)]

theorem namespaceSelector_eq : p.namespaceSelector namespaceName =
    .ofLabels [(p.offer, "true"), (namespaceLabel namespaceName, "true")] := by
  cases p <;> rfl

theorem defaultSelector_eq : p.defaultSelector = .ofLabels [(p.defaultOffer, "true")] := by
  cases p <;> rfl

/-- The two keys of the selector differ, so that neither requirement is lost to the other. -/
theorem namespaceSelector_admits_iff {labels : Labels} :
    (p.namespaceSelector namespaceName).admits labels = true ↔
      labels.get? p.offer = some "true" ∧
        labels.get? (namespaceLabel namespaceName) = some "true" := by
  have distinct : ([(p.offer, "true"), (namespaceLabel namespaceName, "true")].map (·.1)).Nodup := by
    simp [ne_namespaceLabel namespaceName p.head?_offer]
  rw [namespaceSelector_eq, Selector.admits_ofLabels_iff distinct]
  simp

theorem defaultSelector_admits_iff {labels : Labels} :
    p.defaultSelector.admits labels = true ↔ labels.get? p.defaultOffer = some "true" := by
  have distinct : ([(p.defaultOffer, "true")].map (·.1)).Nodup := List.pairwise_singleton _ _
  rw [defaultSelector_eq, Selector.admits_ofLabels_iff distinct]
  simp

variable (request : InstallRequest) (rolePrefix : String)

theorem role_collects_iff {labels : Labels} :
    (p.role request rolePrefix).Collects labels ↔ p.Offered request.namespaceName labels := by
  have rule : (p.role request rolePrefix).aggregationRule =
      some ⟨[p.namespaceSelector request.namespaceName, p.defaultSelector]⟩ := rfl
  simp [ClusterRole.Collects, rule, AggregationRule.collects, Offered,
    namespaceSelector_admits_iff, defaultSelector_admits_iff]

theorem get?_role_labels {k : String} (other : k ∉ Provenance.keys) :
    (p.role request rolePrefix).metadata.labels.get? k =
      if k = namespaceLabel request.namespaceName then some "true" else none := by
  have labels : (p.role request rolePrefix).metadata.labels.get? k =
      ((Provenance.ofParent request).labels.get? k).or
        ((KeyMap.empty.insert (namespaceLabel request.namespaceName) "true").get? k) :=
    Metadata.get?_addLabels _ _ k
  rw [labels, Provenance.get?_labels_eq_none other, Option.none_or, KeyMap.get?_insert,
    KeyMap.get?_empty]

theorem not_offered_role :
    ¬p.Offered namespaceName (q.role request rolePrefix).metadata.labels := by
  have offers : (q.role request rolePrefix).metadata.labels.get? p.offer = none := by
    rw [get?_role_labels q request rolePrefix p.offer_notMem_keys,
      if_neg (ne_namespaceLabel _ p.head?_offer)]
  have defaults : (q.role request rolePrefix).metadata.labels.get? p.defaultOffer = none := by
    rw [get?_role_labels q request rolePrefix p.defaultOffer_notMem_keys,
      if_neg (ne_namespaceLabel _ p.head?_defaultOffer)]
  rintro (⟨offered, -⟩ | offered)
  · rw [offers] at offered
    cases offered
  · rw [defaults] at offered
    cases offered

def Brought (r : ClusterRole) : Prop := ∃ request rolePrefix, r ∈ roles request rolePrefix

def Aggregates (upper lower : ClusterRole) : Prop :=
  Brought upper ∧ Brought lower ∧ upper.Collects lower.metadata.labels

theorem not_collects_brought {upper lower : ClusterRole} (brought : Brought upper)
    (brought' : Brought lower) : ¬upper.Collects lower.metadata.labels := by
  obtain ⟨request, rolePrefix, member⟩ := brought
  obtain ⟨request', rolePrefix', member'⟩ := brought'
  obtain ⟨p, rfl⟩ := exists_of_mem_roles member
  obtain ⟨q, rfl⟩ := exists_of_mem_roles member'
  rw [role_collects_iff]
  exact p.not_offered_role q _ request' rolePrefix'

theorem role_mem_roles {request : InstallRequest} (namespaced : request.kind = .stackInstall) :
    p.role request rolePrefix ∈ roles request rolePrefix := by
  have scope : request.scope = .namespaced := by rw [InstallRequest.scope, namespaced]; rfl
  rw [roles, scope]
  exact List.mem_map_of_mem (by cases p <;> decide)

/-- The role of a persona in the namespace of a request, which collects by the labels for this
namespace and this persona only. -/
structure Isolated : Prop where
  brought : p.role request rolePrefix ∈ roles request rolePrefix
  collects : ∀ labels : Labels, (p.role request rolePrefix).Collects labels ↔
    labels.get? ("rbac.crossplane.io/aggregate-to-namespace-" ++ p.name) = some "true" ∧
      labels.get? ("namespace.crossplane.io/" ++ request.namespaceName) = some "true" ∨
    labels.get? ("rbac.crossplane.io/aggregate-to-namespace-default-" ++ p.name) = some "true"
  foreign : ∀ labels labels' : Labels,
    (∀ k, ¬p.Foreign request.namespaceName k → labels.get? k = labels'.get? k) →
      ((p.role request rolePrefix).Collects labels ↔ (p.role request rolePrefix).Collects labels')

theorem isolated {request : InstallRequest} (namespaced : request.kind = .stackInstall) :
    p.Isolated request rolePrefix where
  brought := p.role_mem_roles rolePrefix namespaced
  collects _ := p.role_collects_iff request rolePrefix
  foreign labels labels' same := by
    rw [role_collects_iff, role_collects_iff]
    exact p.offered_congr request.namespaceName same

/-- Roles of personas widen by no label for another namespace or persona, and not by each other. -/
theorem aggregation_isolated {r₁ r₂ : InstallRequest} (first : r₁.kind = .stackInstall)
    (second : r₂.kind = .stackInstall) (prefix₁ prefix₂ : String) :
    p.Isolated r₁ prefix₁ ∧ q.Isolated r₂ prefix₂ ∧
      ¬(q.role r₂ prefix₂).Collects (p.role r₁ prefix₁).metadata.labels ∧
      ∀ role, ¬Relation.TransGen Aggregates role role := by
  refine ⟨p.isolated prefix₁ first, q.isolated prefix₂ second, ?_, ?_⟩
  · rw [role_collects_iff]
    exact q.not_offered_role p _ r₁ prefix₁
  · intro role cycle
    obtain ⟨next, ⟨brought, brought', collects⟩, -⟩ := Relation.TransGen.head'_iff.1 cycle
    exact not_collects_brought brought brought' collects

def sampleTeam (namespaceName : String) : InstallRequest :=
  .ofPackage .stackInstall namespaceName "redis" "registry.local/redis:1.0"

theorem aggregation_isolated_sample :
    let labels := KeyMap.ofList [(admin.offer, "true"), (namespaceLabel "team-a", "true")]
    let roleA := admin.role (sampleTeam "team-a") "crossplane"
    let roleB := admin.role (sampleTeam "team-b") "crossplane"
    (sampleTeam "team-a").kind = .stackInstall ∧ (sampleTeam "team-b").kind = .stackInstall ∧
      roleA.Collects labels ∧ ¬roleB.Collects labels ∧ ¬roleB.Collects roleA.metadata.labels := by
  intro labels roleA roleB
  have kindA : (sampleTeam "team-a").kind = .stackInstall := rfl
  have kindB : (sampleTeam "team-b").kind = .stackInstall := rfl
  obtain ⟨ofA, ofB, unoffered, -⟩ :=
    aggregation_isolated admin admin kindA kindB "crossplane" "crossplane"
  exact ⟨kindA, kindB, (ofA.collects labels).2 (by decide), mt (ofB.collects labels).1 (by decide),
    unoffered⟩

end Persona

end PackageInstall
