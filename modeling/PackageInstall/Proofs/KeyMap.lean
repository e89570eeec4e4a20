import PackageInstall.KeyMap

namespace PackageInstall.KeyMap

variable {α β : Type}

theorem lookup_append (k : String) (front back : List (String × α)) :
    lookup k (front ++ back) = (lookup k front).or (lookup k back) := by
  induction front with
  | nil => simp [lookup]
  | cons e rest ih =>
    by_cases here : k = e.1
    · simp [lookup, here]
    · simp [lookup, here, ih]

theorem lookup_eq_none_iff {k : String} {l : List (String × α)} :
    lookup k l = none ↔ k ∉ l.map (·.1) := by
  induction l with
  | nil => simp [lookup]
  | cons e rest ih =>
    by_cases here : k = e.1
    · simp [lookup, here]
    · simpa [lookup, here] using ih

theorem mem_of_lookup {k : String} {v : α} {l : List (String × α)}
    (found : lookup k l = some v) : (k, v) ∈ l := by
  induction l with
  | nil => cases found
  | cons e rest ih =>
    by_cases here : k = e.1
    · simp only [lookup, here, if_true, Option.some.injEq] at found
      simp [here, ← found]
    · simp only [lookup, here, if_false] at found
      exact List.mem_cons_of_mem _ (ih found)

theorem lookup_of_mem {pairs : List (String × α)}
    (distinct : (pairs.map (·.1)).Nodup) {e : String × α} (member : e ∈ pairs) :
    lookup e.1 pairs = some e.2 := by
  induction pairs with
  | nil => cases member
  | cons first rest ih =>
    obtain ⟨absent, later⟩ := List.nodup_cons.1 distinct
    rcases List.mem_cons.1 member with rfl | member
    · simp [lookup]
    · have other : e.1 ≠ first.1 := by
        intro same
        have there : first.1 ∈ rest.map (·.1) := same ▸ List.mem_map_of_mem member
        exact absent there
      rw [lookup, if_neg other, ih later member]

theorem lookup_perm {l l' : List (String × α)} (order : l.Perm l')
    (distinct : (l.map (·.1)).Nodup) (k : String) : lookup k l = lookup k l' := by
  have distinct' : (l'.map (·.1)).Nodup := (order.map _).nodup_iff.1 distinct
  cases found : lookup k l with
  | none =>
    have absent : k ∉ l'.map (·.1) := fun there =>
      lookup_eq_none_iff.1 found ((order.map _).mem_iff.2 there)
    rw [lookup_eq_none_iff.2 absent]
  | some v => exact (lookup_of_mem distinct' (order.mem_iff.1 (mem_of_lookup found))).symm

theorem perm_place {k : String} {l : List (String × α)} (absent : k ∉ l.map (·.1)) (v : α) :
    (place k v l).Perm ((k, v) :: l) := by
  induction l with
  | nil => exact .refl _
  | cons e rest ih =>
    rw [List.map_cons, List.mem_cons, not_or] at absent
    unfold place
    split
    · exact .refl _
    · rw [if_neg absent.1]
      exact ((ih absent.2).cons e).trans (.swap _ _ _)

theorem get?_insertAll (m : KeyMap α) {pairs : List (String × α)}
    (distinct : (pairs.map (·.1)).Nodup) (k : String) :
    (m.insertAll pairs).get? k = (lookup k pairs).or (m.get? k) := by
  induction pairs generalizing m with
  | nil => simp [insertAll, lookup]
  | cons e rest ih =>
    obtain ⟨absent, later⟩ := List.nodup_cons.1 distinct
    have step : m.insertAll (e :: rest) = (m.insert e.1 e.2).insertAll rest := rfl
    rw [step, ih _ later, get?_insert]
    by_cases here : k = e.1
    · have none : lookup k rest = none := lookup_eq_none_iff.2 (here ▸ absent)
      simp [lookup, here, here ▸ none]
    · simp [lookup, here]

theorem get?_insertAll_last (m : KeyMap α) (pairs : List (String × α)) (k : String) :
    (m.insertAll pairs).get? k = (lookup k pairs.reverse).or (m.get? k) := by
  induction pairs generalizing m with
  | nil => rfl
  | cons e rest ih =>
    have step : m.insertAll (e :: rest) = (m.insert e.1 e.2).insertAll rest := rfl
    rw [step, ih, get?_insert, List.reverse_cons, lookup_append]
    by_cases here : k = e.1
    · simp [lookup, here]
    · simp [lookup, here]

theorem get?_ofList {pairs : List (String × α)} (distinct : (pairs.map (·.1)).Nodup)
    (k : String) : (ofList pairs).get? k = lookup k pairs := by
  rw [ofList, get?_insertAll _ distinct, get?_empty, Option.or_none]

theorem mem_of_mem_ofList {pairs : List (String × α)} {e : String × α}
    (member : e ∈ (ofList pairs).entries) : e ∈ pairs := by
  have found : (ofList pairs).get? e.1 = some e.2 := get?_eq_some.2 member
  rw [ofList, get?_insertAll_last, get?_empty, Option.or_none] at found
  exact List.mem_reverse.1 (mem_of_lookup found)

theorem ofList_middle (front : List (String × α)) {back : List (String × α)} {k : String} (v : α)
    (absent : k ∉ back.map (·.1)) :
    ofList (front ++ (k, v) :: back) = (ofList (front ++ back)).insert k v := by
  apply ext_get?
  intro name
  have unset : lookup k back.reverse = none := lookup_eq_none_iff.2 (by simpa using absent)
  simp only [get?_insert, ofList, get?_insertAll_last, List.reverse_append, List.reverse_cons,
    lookup_append, get?_empty, Option.or_none]
  by_cases here : name = k
  · simp [here, unset, lookup]
  · simp [here, lookup]

theorem nodup_of_ordered {l : List (String × α)} (ordered : l.Pairwise fun a b => a.1 < b.1) :
    (l.map (·.1)).Nodup := by
  rw [List.nodup_iff_pairwise_ne, List.pairwise_map]
  refine ordered.imp ?_
  intro a b less same
  exact String.lt_irrefl b.1 (same ▸ less)

theorem nodup_keys (m : KeyMap α) : (m.entries.map (·.1)).Nodup := nodup_of_ordered m.ordered

theorem get?_union (m upper : KeyMap α) (k : String) :
    (m.union upper).get? k = (upper.get? k).or (m.get? k) :=
  get?_insertAll m (nodup_keys upper) k

theorem entries_ofList {l : List (String × α)} (ordered : l.Pairwise fun a b => a.1 < b.1) :
    (ofList l).entries = l :=
  entries_eq_of_lookup (ofList l).ordered ordered fun k => get?_ofList (nodup_of_ordered ordered) k

theorem ofList_entries (m : KeyMap α) : ofList m.entries = m :=
  ext_get? fun k => get?_ofList (nodup_keys m) k

theorem ordered_map {l : List (String × α)} (f : α → β)
    (ordered : l.Pairwise fun a b => a.1 < b.1) :
    (l.map fun e => (e.1, f e.2)).Pairwise fun a b => a.1 < b.1 :=
  List.pairwise_map.2 ordered

theorem lookup_filter (p : String → Bool) (k : String) (l : List (String × α)) :
    lookup k (l.filter fun e => p e.1) = if p k then lookup k l else none := by
  induction l with
  | nil => simp [lookup]
  | cons e rest ih =>
    by_cases here : k = e.1
    · subst here
      by_cases passes : p e.1 <;> simp [passes, lookup, ih]
    · by_cases passes : p e.1 <;> simp [passes, lookup, here, ih]

theorem nodup_filter (p : String → Bool) {l : List (String × α)}
    (distinct : (l.map (·.1)).Nodup) : ((l.filter fun e => p e.1).map (·.1)).Nodup :=
  distinct.sublist (List.filter_sublist.map _)

theorem get?_ofList_filter (m : KeyMap α) (p : String → Bool) (k : String) :
    (ofList (m.entries.filter fun e => p e.1)).get? k = if p k then m.get? k else none := by
  rw [get?_ofList (nodup_filter p (nodup_keys m)), lookup_filter, get?]

theorem get?_filterKeys (m : KeyMap α) (p : String → Bool) (k : String) :
    (m.filterKeys p).get? k = if p k then m.get? k else none := lookup_filter p k m.entries

end PackageInstall.KeyMap
