import PackageInstall.Store

namespace PackageInstall

abbrev Place : Type := Coordinates × ObjectKey

def Object.place (o : Object) : Place := (o.coordinates, .ofObject o)

namespace Store

def Entry.place (e : Entry) : Place := (e.coordinates, e.key)

theorem Entry.isAt_iff {e : Entry} {c : Coordinates} {k : ObjectKey} :
    e.isAt c k = true ↔ e.place = (c, k) := by
  simp [isAt, place]

def places (s : Store) : List Place := s.entries.map Entry.place

theorem find?_isSome_iff {s : Store} {c : Coordinates} {k : ObjectKey} :
    (s.find? c k).isSome ↔ (c, k) ∈ s.places := by
  simp [find?, places, Entry.isAt_iff]

theorem find?_eq_none_iff {s : Store} {c : Coordinates} {k : ObjectKey} :
    s.find? c k = none ↔ (c, k) ∉ s.places := by
  rw [← find?_isSome_iff, Option.not_isSome_iff_eq_none]

theorem find?_of_joining {s : Store} {e : Entry} {c : Coordinates} {k : ObjectKey}
    (free : (c, k) ∉ s.places) (here : e.place = (c, k)) (issued : Nat) :
    (⟨s.entries ++ [e], issued⟩ : Store).find? c k = some e.object := by
  have absent : s.entries.find? (fun e => e.isAt c k) = none :=
    Option.map_eq_none_iff.1 (find?_eq_none_iff.2 free)
  have there : e.isAt c k = true := Entry.isAt_iff.2 here
  simp [find?, List.find?_append, absent, there]

def entryOf (o : Object) (i : Identity) (sequence : Nat) : Entry :=
  ⟨o.coordinates, .ofObject o, identified o i, sequence⟩

@[simp] theorem entryOf_place (o : Object) (i : Identity) (sequence : Nat) :
    (entryOf o i sequence).place = o.place := rfl

def absorb (identities : Nat → Identity) (s : Store) (o : Object) : Store :=
  match s.create o (identities s.issued) with
  | .ok (_, created) => created
  | .error _ => s

variable {identities : Nat → Identity}

theorem create_of_free {s : Store} {o : Object} (i : Identity) (named : o.name ≠ "")
    (free : o.place ∉ s.places) :
    s.create o i =
      .ok (identified o i, ⟨s.entries ++ [entryOf o i s.issued], s.issued + 1⟩) := by
  have absent : s.find? o.coordinates (.ofObject o) = none := find?_eq_none_iff.2 free
  simp [create, named, absent, entryOf]

theorem create_of_taken {s : Store} {o : Object} (i : Identity) (named : o.name ≠ "")
    (taken : o.place ∈ s.places) :
    s.create o i = .error (.alreadyExists o.coordinates.kind (.ofObject o)) := by
  have present : (s.find? o.coordinates (.ofObject o)).isSome := find?_isSome_iff.2 taken
  simp [create, named, present]

theorem create_of_nameless {s : Store} {o : Object} (i : Identity) (nameless : o.name = "") :
    s.create o i = .error (.invalid (o.kind ++ " object has no name")) := by
  simp [create, nameless]

theorem eq_identified_of_create {s created : Store} {o stored : Object} {i : Identity}
    (h : s.create o i = .ok (stored, created)) : stored = identified o i := by
  by_cases nameless : o.name = ""
  · simp [create_of_nameless i nameless] at h
  · by_cases taken : o.place ∈ s.places
    · simp [create_of_taken i nameless taken] at h
    · rw [create_of_free i nameless taken] at h
      cases h
      rfl

theorem absorb_of_free {s : Store} {o : Object} (named : o.name ≠ "") (free : o.place ∉ s.places) :
    s.absorb identities o =
      ⟨s.entries ++ [entryOf o (identities s.issued) s.issued], s.issued + 1⟩ := by
  simp [absorb, create_of_free _ named free]

theorem absorb_of_taken {s : Store} {o : Object} (taken : o.place ∈ s.places) :
    s.absorb identities o = s := by
  by_cases nameless : o.name = ""
  · simp [absorb, create_of_nameless _ nameless]
  · simp [absorb, create_of_taken _ nameless taken]

theorem absorb_of_nameless {s : Store} {o : Object} (nameless : o.name = "") :
    s.absorb identities o = s := by
  simp [absorb, create_of_nameless _ nameless]

theorem place_mem_absorb {s : Store} {o : Object} (named : o.name ≠ "") :
    o.place ∈ (s.absorb identities o).places := by
  by_cases taken : o.place ∈ s.places
  · rwa [absorb_of_taken taken]
  · simp [absorb_of_free named taken, places]

theorem entries_prefix_absorb (s : Store) (o : Object) :
    s.entries <+: (s.absorb identities o).entries := by
  by_cases nameless : o.name = ""
  · exact ⟨[], by rw [absorb_of_nameless nameless, List.append_nil]⟩
  · by_cases taken : o.place ∈ s.places
    · exact ⟨[], by rw [absorb_of_taken taken, List.append_nil]⟩
    · rw [absorb_of_free nameless taken]
      exact List.prefix_append _ _

theorem find?_of_grown {s t : Store} (grown : s.entries <+: t.entries) {c : Coordinates}
    {k : ObjectKey} {o : Object} (found : s.find? c k = some o) : t.find? c k = some o := by
  obtain ⟨more, grown⟩ := grown
  simp only [find?, Option.map_eq_some_iff] at found ⊢
  obtain ⟨e, first, same⟩ := found
  exact ⟨e, by rw [← grown, List.find?_append, first, Option.some_or], same⟩

def absorbAll (identities : Nat → Identity) (s : Store) (os : List Object) : Store :=
  os.foldl (absorb identities) s

theorem absorbAll_append (s : Store) (front back : List Object) :
    s.absorbAll identities (front ++ back) =
      (s.absorbAll identities front).absorbAll identities back := List.foldl_append

theorem entries_prefix_absorbAll (s : Store) (os : List Object) :
    s.entries <+: (s.absorbAll identities os).entries := by
  induction os generalizing s with
  | nil => exact List.prefix_rfl
  | cons o rest ih => exact (entries_prefix_absorb s o).trans (ih (s.absorb identities o))

theorem places_subset_of_grown {s t : Store} (grown : s.entries <+: t.entries) :
    s.places ⊆ t.places := (grown.map Entry.place).subset

theorem place_mem_absorbAll {s : Store} {os : List Object} {o : Object} (member : o ∈ os)
    (named : o.name ≠ "") : o.place ∈ (s.absorbAll identities os).places := by
  induction os generalizing s with
  | nil => cases member
  | cons o' rest ih =>
    rcases List.mem_cons.1 member with rfl | later
    · exact places_subset_of_grown (entries_prefix_absorbAll _ rest) (place_mem_absorb named)
    · exact ih later

theorem absorbAll_of_taken {s : Store} {os : List Object} (taken : ∀ o ∈ os, o.place ∈ s.places) :
    s.absorbAll identities os = s := by
  induction os with
  | nil => rfl
  | cons o rest ih =>
    have here : s.absorb identities o = s := absorb_of_taken (taken o List.mem_cons_self)
    have step : s.absorbAll identities (o :: rest) =
      (s.absorb identities o).absorbAll identities rest := rfl
    rw [step, here]
    exact ih fun o' member => taken o' (List.mem_cons_of_mem _ member)

theorem find?_absorbAll_of_free (identities : Nat → Identity) {s : Store} {c : Coordinates}
    {k : ObjectKey} (free : s.find? c k = none) {os : List Object} (named : ∀ o ∈ os, o.name ≠ "") :
    match os.find? fun o => decide (o.place = (c, k)) with
    | some o => ∃ i, (s.absorbAll identities os).find? c k = some (identified o i)
    | none => (s.absorbAll identities os).find? c k = none := by
  induction os generalizing s with
  | nil => exact free
  | cons o rest ih =>
    have step : s.absorbAll identities (o :: rest) =
      (s.absorb identities o).absorbAll identities rest := rfl
    have namedRest : ∀ o' ∈ rest, o'.name ≠ "" := fun o' member =>
      named o' (List.mem_cons_of_mem _ member)
    have isNamed := named o List.mem_cons_self
    rw [step, List.find?_cons]
    by_cases here : o.place = (c, k)
    · have unheld : (c, k) ∉ s.places := find?_eq_none_iff.1 free
      have stands : (s.absorb identities o).find? c k =
          some (identified o (identities s.issued)) := by
        rw [absorb_of_free isNamed (here.symm ▸ unheld)]
        exact find?_of_joining unheld ((entryOf_place o _ _).trans here) _
      simp only [here, decide_true]
      exact ⟨_, find?_of_grown (entries_prefix_absorbAll _ rest) stands⟩
    · have still : (s.absorb identities o).find? c k = none := by
        rw [find?_eq_none_iff] at free ⊢
        by_cases taken : o.place ∈ s.places
        · rwa [absorb_of_taken taken]
        · rw [absorb_of_free isNamed taken]
          intro there
          obtain ⟨e, member, same⟩ := List.mem_map.1 there
          rcases List.mem_append.1 member with old | new
          · exact free (List.mem_map.2 ⟨e, old, same⟩)
          · rw [List.mem_singleton.1 new, entryOf_place] at same
            exact here same
      simp only [here, decide_false]
      exact ih still namedRest

instance (p : Place) (places : List Place) : Decidable (p ∈ places) := inferInstance

/-- The first object for each place that is not taken. -/
def newcomers (taken : List Place) : List Object → List Object
  | [] => []
  | o :: rest =>
    if o.place ∈ taken then newcomers taken rest else o :: newcomers (o.place :: taken) rest

theorem newcomers_congr {taken taken' : List Place} (same : ∀ p, p ∈ taken ↔ p ∈ taken')
    (os : List Object) : newcomers taken os = newcomers taken' os := by
  induction os generalizing taken taken' with
  | nil => rfl
  | cons o rest ih =>
    have more : ∀ p, p ∈ o.place :: taken ↔ p ∈ o.place :: taken' := by
      intro p
      simp [same p]
    simp only [newcomers, same o.place, ih same, ih more]

def joined (identities : Nat → Identity) (s : Store) (os : List Object) : Store where
  entries := s.entries ++
    os.mapIdx fun i o => entryOf o (identities (s.issued + i)) (s.issued + i)
  issued := s.issued + os.length

theorem joined_cons (s : Store) (o : Object) (rest : List Object) :
    s.joined identities (o :: rest) =
      (s.joined identities [o]).joined identities rest := by
  simp [joined, List.mapIdx_cons, Nat.add_assoc, Nat.add_comm 1]

theorem absorbAll_eq_joined {os : List Object} (named : ∀ o ∈ os, o.name ≠ "") (s : Store) :
    s.absorbAll identities os = s.joined identities (newcomers s.places os) := by
  induction os generalizing s with
  | nil => simp [absorbAll, newcomers, joined]
  | cons o rest ih =>
    have namedRest : ∀ o' ∈ rest, o'.name ≠ "" := fun o' member =>
      named o' (List.mem_cons_of_mem _ member)
    have step : s.absorbAll identities (o :: rest) =
      (s.absorb identities o).absorbAll identities rest := rfl
    rw [step, ih namedRest, newcomers]
    split
    · rename_i taken
      rw [absorb_of_taken taken]
    · rename_i free
      have one : s.absorb identities o = s.joined identities [o] := by
        rw [absorb_of_free (named o List.mem_cons_self) free]
        simp [joined]
      have places : ∀ p, p ∈ (s.joined identities [o]).places ↔ p ∈ o.place :: s.places := by
        intro p
        simp [joined, Store.places, or_comm]
      rw [one, newcomers_congr places, ← joined_cons]

end Store

end PackageInstall
