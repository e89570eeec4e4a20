import PackageInstall.Proofs.Provenance

namespace PackageInstall

theorem Metadata.get?_addLabels_last (m : Metadata) (labels : List (String × String)) (k : String) :
    (m.addLabels labels).labels.get? k = (KeyMap.lookup k labels.reverse).or (m.labels.get? k) :=
  KeyMap.get?_insertAll_last m.labels labels k

theorem Metadata.frame_addLabels (m : Metadata) (labels : List (String × String)) :
    { m.addLabels labels with labels := m.labels } = m := rfl

theorem Metadata.addLabels_alike (m : Metadata) (a b : List (String × String)) :
    { m.addLabels a with labels := (m.addLabels b).labels } = m.addLabels b := rfl

theorem Metadata.addLabels_eq {m m' : Metadata} {a b : List (String × String)}
    (frame : { m with labels := m'.labels } = m')
    (same : ∀ k, (m.addLabels a).labels.get? k = (m'.addLabels b).labels.get? k) :
    m.addLabels a = m'.addLabels b := by
  have labels : (m.addLabels a).labels = (m'.addLabels b).labels := KeyMap.ext_get? same
  rw [← frame] at labels ⊢
  exact congrArg (fun labels => { m with labels }) labels

namespace Provenance

variable (p q : Provenance) (m : Metadata)

theorem get?_apply (k : String) :
    (q.apply m).labels.get? k = (q.labels.get? k).or (m.labels.get? k) :=
  m.get?_addLabels q.labels k

theorem get?_apply_of_notMem {k : String} (other : k ∉ keys) :
    (q.apply m).labels.get? k = m.labels.get? k := by
  rw [get?_apply, get?_labels_eq_none other, Option.none_or]

theorem borne_apply : q.Borne (q.apply m).labels := q.borne_labels.addLabels m

theorem exists_label {k : String} (one : k ∈ keys) : ∃ v, p.labels.get? k = some v := by
  have bound : k ∈ p.pairs.map (·.1) := one
  obtain ⟨e, member, rfl⟩ := List.mem_map.1 bound
  exact ⟨e.2, borne_iff.1 p.borne_labels e member⟩

theorem apply_apply : p.apply (q.apply m) = p.apply m := by
  refine Metadata.addLabels_eq (m.frame_addLabels _) fun k => ?_
  rw [Metadata.get?_addLabels, Metadata.get?_addLabels]
  by_cases one : k ∈ keys
  · obtain ⟨v, set⟩ := p.exists_label one
    rw [set, Option.some_or, Option.some_or]
  · rw [get?_apply_of_notMem q m one]

variable {labels : List (String × String)}

theorem lookup_eq_none_of_apart (apart : ∀ e ∈ labels, e.1 ∉ keys) {k : String} (one : k ∈ keys) :
    KeyMap.lookup k labels.reverse = none := by
  refine KeyMap.lookup_eq_none ?_
  rintro e member rfl
  exact apart e (List.mem_reverse.1 member) one

theorem apply_addLabels (apart : ∀ e ∈ labels, e.1 ∉ keys) :
    q.apply (m.addLabels labels) = (q.apply m).addLabels labels := by
  refine Metadata.addLabels_eq (m.addLabels_alike labels _) fun k => ?_
  rw [Metadata.get?_addLabels, Metadata.get?_addLabels_last, Metadata.get?_addLabels_last,
    get?_apply]
  by_cases one : k ∈ keys
  · rw [lookup_eq_none_of_apart apart one, Option.none_or, Option.none_or]
  · rw [get?_labels_eq_none one, Option.none_or, Option.none_or]

theorem admits_addLabels (apart : ∀ e ∈ labels, e.1 ∉ keys) :
    p.selector.admits (m.addLabels labels).labels = p.selector.admits m.labels := by
  have same : ∀ k ∈ keys, (m.addLabels labels).labels.get? k = m.labels.get? k := fun k one => by
    rw [Metadata.get?_addLabels_last, lookup_eq_none_of_apart apart one, Option.none_or]
  rw [Bool.eq_iff_iff, selector_admits_iff, selector_admits_iff]
  exact ⟨fun borne => borne.of_get? fun k one => (same k one).symm, fun borne => borne.of_get? same⟩

/-- What putting the labels of one parent on metadata does, and which of them the selector of a
parent finds. -/
structure Overwrites : Prop where
  frame : { q.apply m with labels := m.labels } = m
  others : ∀ k ∉ keys, (q.apply m).labels.get? k = m.labels.get? k
  borne : q.Borne (q.apply m).labels
  found : p.selector.admits (q.apply m).labels = true ↔ p = q
  again : q.apply (q.apply m) = q.apply m
  later : p.apply (q.apply m) = p.apply m
  commutes : ∀ labels : List (String × String), (∀ e ∈ labels, e.1 ∉ keys) →
    q.apply (m.addLabels labels) = (q.apply m).addLabels labels
  unaffected : ∀ labels : List (String × String), (∀ e ∈ labels, e.1 ∉ keys) →
    p.selector.admits (m.addLabels labels).labels = p.selector.admits m.labels ∧
    p.selector.admits ((q.apply m).addLabels labels).labels =
      p.selector.admits (q.apply m).labels
  namespaces : ∀ namespaceName, namespaceLabel namespaceName ∉ keys

theorem apply_overwrites : Overwrites p q m where
  frame := m.frame_addLabels q.labels.entries
  others _ other := q.get?_apply_of_notMem m other
  borne := q.borne_apply m
  found := by
    rw [selector_admits_iff]
    constructor
    · exact fun borne => borne.eq (q.borne_apply m)
    · rintro rfl
      exact p.borne_apply m
  again := q.apply_apply q m
  later := p.apply_apply q m
  commutes _ apart := q.apply_addLabels m apart
  unaffected _ apart := ⟨p.admits_addLabels m apart, p.admits_addLabels (q.apply m) apart⟩
  namespaces := namespaceLabel_notMem_keys

def sampleParent : Provenance :=
  ⟨"stacks.crossplane.io", "v1alpha1", "StackInstall", "team-a", "redis", "uid-1"⟩

def sampleForged : Metadata :=
  (Metadata.ofName "" "redis").addLabels [("app", "redis"), (uidKey, "uid-1")]

theorem apply_overwrites_sample :
    let other := { sampleParent with uid := "uid-2" }
    let owned := [(namespaceLabel "team-a", "true")]
    (∀ e ∈ owned, e.1 ∉ keys) ∧ (other.apply sampleForged).labels.get? "app" = some "redis" ∧
      sampleParent.selector.admits (other.apply sampleForged).labels = false ∧
      sampleParent.apply (other.apply sampleForged) = sampleParent.apply sampleForged ∧
      other.apply (sampleForged.addLabels owned) = (other.apply sampleForged).addLabels owned := by
  intro other owned
  have overwrites := apply_overwrites sampleParent other sampleForged
  have apart : ∀ e ∈ owned, e.1 ∉ keys := by
    intro e member
    rw [List.mem_singleton.1 member]
    exact overwrites.namespaces "team-a"
  refine ⟨apart, ?_, ?_, overwrites.later, overwrites.commutes owned apart⟩
  · exact (overwrites.others "app" (by decide)).trans rfl
  · rw [Bool.eq_false_iff]
    intro found
    exact absurd (overwrites.found.1 found) (by decide)

end Provenance

end PackageInstall
