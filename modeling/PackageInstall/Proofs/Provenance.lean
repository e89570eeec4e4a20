import PackageInstall.Provenance
import PackageInstall.Proofs.KeyMap

namespace PackageInstall

theorem Metadata.get?_addLabels (m : Metadata) (labels : Labels) (k : String) :
    (m.addLabels labels.entries).labels.get? k = (labels.get? k).or (m.labels.get? k) :=
  KeyMap.get?_insertAll m.labels (KeyMap.nodup_keys labels) k

theorem Selector.admits_ofLabels_iff {required : List (String × String)}
    (distinct : (required.map (·.1)).Nodup) {labels : Labels} :
    (ofLabels required).admits labels = true ↔ ∀ e ∈ required, labels.get? e.1 = some e.2 := by
  have entries : ∀ e, e ∈ (KeyMap.ofList required).entries ↔ e ∈ required := by
    intro e
    have found : e ∈ (KeyMap.ofList required).entries ↔ KeyMap.lookup e.1 required = some e.2 := by
      rw [← KeyMap.get?_ofList distinct, KeyMap.get?_eq_some]
    rw [found]
    exact ⟨KeyMap.mem_of_lookup, KeyMap.lookup_of_mem distinct⟩
  simp [admits, ofLabels, entries]

namespace Provenance

/-- Labels that name a parent in full. A label that is missing is not the empty text. -/
structure Borne (p : Provenance) (labels : Labels) : Prop where
  group : labels.get? groupKey = some p.group
  version : labels.get? versionKey = some p.version
  kind : labels.get? kindKey = some p.kind
  namespaceName : labels.get? namespaceKey = some p.namespaceName
  name : labels.get? nameKey = some p.name
  uid : labels.get? uidKey = some p.uid

variable {p : Provenance} {labels : Labels}

theorem borne_iff : p.Borne labels ↔ ∀ e ∈ p.pairs, labels.get? e.1 = some e.2 := by
  constructor
  · rintro ⟨group, version, kind, namespaceName, name, uid⟩
    simp [pairs, group, version, kind, namespaceName, name, uid]
  · intro borne
    simp only [pairs, List.forall_mem_cons] at borne
    obtain ⟨group, version, kind, namespaceName, name, uid, -⟩ := borne
    exact ⟨group, version, kind, namespaceName, name, uid⟩

theorem nodup_pairs (p : Provenance) : (p.pairs.map (·.1)).Nodup := by
  have fixed : p.pairs.map (·.1) = keys := rfl
  rw [fixed]
  decide

theorem get?_labels (p : Provenance) (k : String) :
    p.labels.get? k = KeyMap.lookup k p.pairs := KeyMap.get?_ofList p.nodup_pairs k

theorem get?_labels_eq_none {k : String} (other : k ∉ keys) : p.labels.get? k = none := by
  rw [get?_labels]
  exact KeyMap.lookup_eq_none_iff.2 other

theorem borne_labels (p : Provenance) : p.Borne p.labels := by
  constructor <;> rw [get?_labels] <;> simp [pairs, KeyMap.lookup, groupKey, versionKey, kindKey,
    namespaceKey, nameKey, uidKey]

theorem Borne.of_get? (borne : p.Borne labels) {labels' : Labels}
    (same : ∀ k ∈ keys, labels'.get? k = labels.get? k) : p.Borne labels' where
  group := (same _ (by decide)).trans borne.group
  version := (same _ (by decide)).trans borne.version
  kind := (same _ (by decide)).trans borne.kind
  namespaceName := (same _ (by decide)).trans borne.namespaceName
  name := (same _ (by decide)).trans borne.name
  uid := (same _ (by decide)).trans borne.uid

theorem Borne.eq {p' : Provenance} (borne : p.Borne labels) (borne' : p'.Borne labels) :
    p = p' := by
  obtain ⟨group, version, kind, namespaceName, name, uid⟩ := p
  obtain ⟨group', version', kind', namespaceName', name', uid'⟩ := p'
  have sameGroup := Option.some_inj.1 (borne.group.symm.trans borne'.group)
  have sameVersion := Option.some_inj.1 (borne.version.symm.trans borne'.version)
  have sameKind := Option.some_inj.1 (borne.kind.symm.trans borne'.kind)
  have sameNamespace := Option.some_inj.1 (borne.namespaceName.symm.trans borne'.namespaceName)
  have sameName := Option.some_inj.1 (borne.name.symm.trans borne'.name)
  have sameUid := Option.some_inj.1 (borne.uid.symm.trans borne'.uid)
  simp only at sameGroup sameVersion sameKind sameNamespace sameName sameUid
  rw [sameGroup, sameVersion, sameKind, sameNamespace, sameName, sameUid]

theorem Borne.addLabels (borne : p.Borne labels) (m : Metadata) :
    p.Borne (m.addLabels labels.entries).labels := by
  rw [borne_iff]
  intro e member
  rw [Metadata.get?_addLabels, borne_iff.1 borne e member, Option.some_or]

theorem selector_admits_iff : p.selector.admits labels = true ↔ p.Borne labels := by
  rw [borne_iff]
  exact Selector.admits_ofLabels_iff p.nodup_pairs

instance : Decidable (p.Borne labels) := decidable_of_iff _ selector_admits_iff

theorem head?_namespaceLabel (namespaceName : String) :
    (namespaceLabel namespaceName).toList.head? = some 'n' := by
  simp [namespaceLabel, namespacePrefix]

theorem namespaceLabel_notMem_keys (namespaceName : String) :
    namespaceLabel namespaceName ∉ keys := by
  intro member
  have others : ∀ k ∈ keys, k.toList.head? = some 'c' := by decide
  have first := head?_namespaceLabel namespaceName
  rw [others _ member] at first
  exact absurd first (by decide)

end Provenance

end PackageInstall
