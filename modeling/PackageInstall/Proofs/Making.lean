import Mathlib.Logic.Basic
import PackageInstall.Completion
import PackageInstall.Proofs.Provenance

namespace PackageInstall.Completion

theorem coordinates_adopted (request : InstallRequest) (o : Object) :
    (adopted request o).coordinates = o.coordinates := by
  unfold adopted
  split <;> rfl

theorem materialized_eq (request : InstallRequest) (document : Object) :
    ∃ labels, materialized request document = { adopted request document with
      metadata := (adopted request document).metadata.addLabels labels } := ⟨_, rfl⟩

theorem coordinates_materialized (request : InstallRequest) (o : Object) :
    (materialized request o).coordinates = o.coordinates := by
  obtain ⟨labels, same⟩ := materialized_eq request o
  rw [same, ← coordinates_adopted request o]
  simp only [Object.coordinates]

theorem isSchemaDefinition_materialized {request : InstallRequest} {o : Object} :
    (materialized request o).IsSchemaDefinition ↔ o.IsSchemaDefinition := by
  rw [Object.IsSchemaDefinition, coordinates_materialized, Object.IsSchemaDefinition]

theorem isStackRecord_materialized {request : InstallRequest} {o : Object} :
    (materialized request o).IsStackRecord ↔ o.IsStackRecord := by
  rw [Object.IsStackRecord, coordinates_materialized, Object.IsStackRecord]

theorem get?_labelsFor (request : InstallRequest) (o : Object) (k : String) :
    (labelsFor request o).get? k =
      if o.IsSchemaDefinition ∧ request.namespaceName ≠ "" ∧
          k = Provenance.namespaceLabel request.namespaceName then some "true"
      else (Provenance.ofParent request).labels.get? k := by
  unfold labelsFor
  by_cases marked : o.IsSchemaDefinition ∧ request.namespaceName ≠ ""
  · simp [marked]
  · rw [if_neg marked, if_neg fun all => marked ⟨all.1, all.2.1⟩]

/-- How an object is made of a document: it is the document, labelled on behalf of the request, and
a stack record is adopted by the request. -/
structure MadeOf (request : InstallRequest) (document o : Object) : Prop where
  apiVersion : o.apiVersion = document.apiVersion
  kind : o.kind = document.kind
  rest : o.rest = document.rest
  metadataRest : o.metadata.rest = document.metadata.rest
  provenance : (Provenance.ofParent request).Borne o.metadata.labels
  namespaceLabel : document.IsSchemaDefinition → request.namespaceName ≠ "" →
    o.metadata.labels.get? (Provenance.namespaceLabel request.namespaceName) = some "true"
  otherLabels : ∀ k ∉ Provenance.keys,
    ¬(document.IsSchemaDefinition ∧ request.namespaceName ≠ "" ∧
      k = Provenance.namespaceLabel request.namespaceName) →
    o.metadata.labels.get? k = document.metadata.labels.get? k
  name : o.name =
    if document.IsStackRecord ∧ document.name = "" then request.name else document.name
  namespaceName : o.namespaceName =
    if document.IsStackRecord ∧ document.namespaceName = "" then request.namespaceName
    else document.namespaceName
  ownerReferences : o.metadata.ownerReferences =
    if document.IsStackRecord then [request.asOwner] else document.metadata.ownerReferences

theorem MadeOf.identified {request : InstallRequest} {document o : Object}
    (made : MadeOf request document o) (i : Identity) :
    MadeOf request document (Store.identified o i) where
  apiVersion := made.apiVersion
  kind := made.kind
  rest := made.rest
  metadataRest := made.metadataRest
  provenance := made.provenance
  namespaceLabel := made.namespaceLabel
  otherLabels := made.otherLabels
  name := made.name
  namespaceName := made.namespaceName
  ownerReferences := made.ownerReferences

theorem get?_materialized (request : InstallRequest) (document : Object) (k : String) :
    (materialized request document).metadata.labels.get? k =
      ((labelsFor request (adopted request document)).get? k).or
        (document.metadata.labels.get? k) := by
  have same : (adopted request document).metadata.labels = document.metadata.labels := by
    unfold adopted
    split <;> rfl
  rw [← same]
  exact Metadata.get?_addLabels _ _ k

theorem isSchemaDefinition_adopted (request : InstallRequest) (o : Object) :
    (adopted request o).IsSchemaDefinition ↔ o.IsSchemaDefinition := by
  rw [Object.IsSchemaDefinition, coordinates_adopted, Object.IsSchemaDefinition]

theorem provenance_materialized (request : InstallRequest) (document : Object) :
    (Provenance.ofParent request).Borne (materialized request document).metadata.labels := by
  refine (Provenance.borne_labels _).of_get? fun k member => ?_
  have other : ¬((adopted request document).IsSchemaDefinition ∧ request.namespaceName ≠ "" ∧
      k = Provenance.namespaceLabel request.namespaceName) := by
    rintro ⟨-, -, rfl⟩
    exact Provenance.namespaceLabel_notMem_keys _ member
  rw [get?_materialized, get?_labelsFor, if_neg other]
  cases found : (Provenance.ofParent request).labels.get? k with
  | some v => rfl
  | none =>
    rw [Provenance.get?_labels, KeyMap.lookup_eq_none_iff] at found
    exact absurd member found

theorem name_adopted (request : InstallRequest) (o : Object) :
    (adopted request o).name =
      if o.IsStackRecord ∧ o.name = "" then request.name else o.name := by
  rw [ite_and]
  unfold adopted
  split <;> rfl

theorem namespaceName_adopted (request : InstallRequest) (o : Object) :
    (adopted request o).namespaceName =
      if o.IsStackRecord ∧ o.namespaceName = "" then request.namespaceName
      else o.namespaceName := by
  rw [ite_and]
  unfold adopted
  split <;> rfl

theorem madeOf_materialized (request : InstallRequest) (document : Object) :
    MadeOf request document (materialized request document) where
  apiVersion := by
    obtain ⟨labels, same⟩ := materialized_eq request document
    rw [same, adopted]
    split <;> rfl
  kind := by
    obtain ⟨labels, same⟩ := materialized_eq request document
    rw [same, adopted]
    split <;> rfl
  rest := by
    obtain ⟨labels, same⟩ := materialized_eq request document
    rw [same, adopted]
    split <;> rfl
  metadataRest := by
    obtain ⟨labels, same⟩ := materialized_eq request document
    rw [same, adopted]
    split <;> rfl
  provenance := provenance_materialized request document
  namespaceLabel schema namespaced := by
    have marked := (isSchemaDefinition_adopted request document).2 schema
    rw [get?_materialized, get?_labelsFor, if_pos ⟨marked, namespaced, rfl⟩]
    rfl
  otherLabels k outside unmarked := by
    rw [← isSchemaDefinition_adopted request] at unmarked
    rw [get?_materialized, get?_labelsFor, if_neg unmarked,
      Provenance.get?_labels_eq_none outside, Option.none_or]
  name := by
    obtain ⟨labels, same⟩ := materialized_eq request document
    rw [same, ← name_adopted]
    rfl
  namespaceName := by
    obtain ⟨labels, same⟩ := materialized_eq request document
    rw [same, ← namespaceName_adopted]
    rfl
  ownerReferences := by
    obtain ⟨labels, same⟩ := materialized_eq request document
    rw [same, adopted]
    split <;> rfl

end PackageInstall.Completion
