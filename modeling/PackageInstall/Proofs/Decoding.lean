import PackageInstall.Proofs.Metadata

namespace PackageInstall

open Reading KeyMap

theorem KeyMap.get?_insertAll_of_absent {α : Type} (m : KeyMap α) {pairs : List (String × α)}
    {k : String} (absent : k ∉ pairs.map (·.1)) : (m.insertAll pairs).get? k = m.get? k := by
  induction pairs generalizing m with
  | nil => rfl
  | cons e rest ih =>
    rw [List.map_cons, List.mem_cons, not_or] at absent
    have step : m.insertAll (e :: rest) = (m.insert e.1 e.2).insertAll rest := rfl
    rw [step, ih _ absent.2, get?_insert, if_neg absent.1]

namespace Reading

theorem map_eq_ok_iff {ε α β : Type} {x : Except ε α} {f : α → β} {y : β} :
    x.map f = .ok y ↔ ∃ a, x = .ok a ∧ f a = y := by
  cases x <;> simp [Except.map]

theorem bind_eq_ok_iff {ε α β : Type} {x : Except ε α} {f : α → Except ε β} {y : β} :
    (x >>= f) = .ok y ↔ ∃ a, x = .ok a ∧ f a = .ok y := by
  cases x <;> simp [bind, Except.bind]

theorem mapError_eq_ok_iff {ε ε' α : Type} {told : ε → ε'} {x : Except ε α} {y : α} :
    x.mapError told = .ok y ↔ x = .ok y := by
  cases x with
  | error e =>
    have retold : (Except.error e : Except ε α).mapError told = .error (told e) := rfl
    simp [retold]
  | ok a =>
    have kept : (Except.ok a : Except ε α).mapError told = .ok a := rfl
    simp [kept]

theorem text_eq_ok_iff {v : Json} {s : String} : text v = .ok s ↔ v = .text s := by
  cases v <;> simp [text]

theorem orEmpty_eq_ok_iff {α : Type} {read : Json → Except ReadFault α} {empty x : α} {v : Json} :
    orEmpty read empty v = .ok x ↔ v = .null ∧ empty = x ∨ v ≠ .null ∧ read v = .ok x := by
  by_cases null : v = .null
  · rw [null]
    simp [orEmpty, optional, Except.map]
  · have solid : optional read v = (read v).map some := by
      cases v with
      | null => exact absurd rfl null
      | _ => rfl
    rw [orEmpty, solid]
    cases read v with
    | error e => simp [Except.map, null]
    | ok y => simp [Except.map, null]

theorem Field.withDefault_eq_ok_iff {α : Type} {m : KeyMap Json} {name : String}
    {read : Json → Except ReadFault α} {absent x : α} :
    (Field.withDefault name read absent).ofObject m.entries = .ok x ↔
      m.get? name = none ∧ absent = x ∨ ∃ v, m.get? name = some v ∧ read v = .ok x := by
  cases found : m.get? name with
  | none =>
    have missing : m.get? (Field.withDefault name read absent).name = none := found
    rw [ofObject_of_none missing rfl]
    simp
  | some v =>
    have there : m.get? (Field.withDefault name read absent).name = some v := found
    rw [ofObject_of_some there]
    simp [withDefault]

theorem Field.required_eq_ok_iff {α : Type} {m : KeyMap Json} {name : String}
    {read : Json → Except ReadFault α} {x : α} :
    (Field.required name read).ofObject m.entries = .ok x ↔
      ∃ v, m.get? name = some v ∧ read v = .ok x := by
  cases found : m.get? name with
  | none =>
    have missing : lookup name m.entries = none := found
    simp [ofObject, required, missing]
  | some v =>
    have there : m.get? (Field.required name read).name = some v := found
    rw [ofObject_of_some there]
    simp [required]

namespace Record

theorem ofObject_make_iff {α : Type} {x y : α} {fields : List (String × Json)} :
    (make x).ofObject fields = .ok y ↔ x = y := by
  simp [make]

theorem ofObject_field_iff {α β : Type} {r : Record (α → β)} {f : Field α} {y : β}
    {fields : List (String × Json)} :
    (r.field f).ofObject fields = .ok y ↔
      ∃ build, r.ofObject fields = .ok build ∧ ∃ x, f.ofObject fields = .ok x ∧ build x = y := by
  have step : (r.field f).ofObject fields =
    r.ofObject fields >>= fun build => (f.ofObject fields).map build := rfl
  simp only [step, bind_eq_ok_iff, map_eq_ok_iff]

theorem ofObject_of_readObject {α : Type} {r : Record α} {fields : List (String × Json)} {x : α}
    (reads : r.readObject fields = .ok x) : r.ofObject fields = .ok x := by
  obtain ⟨-, -, all⟩ := bind_eq_ok_iff.1 reads
  exact all

theorem read_ofMap_iff {α : Type} {r : Record α} (sound : r.Sound) {name : String}
    {m : KeyMap Json} {x : α} :
    r.read name (.ofMap m) = .ok x ↔ r.ofObject m.entries = .ok x :=
  ⟨fun reads => ofObject_of_readObject reads, read_ofMap sound name⟩

theorem readOpen_eq_ok {α : Type} {r : Record (KeyMap Json → α)} {name : String} {v : Json} {x : α}
    (reads : r.readOpen name v = .ok x) : ∃ fields build,
      v = .object fields ∧ r.ofObject fields = .ok build ∧ build (r.restOf fields) = x := by
  cases v with
  | object fields =>
    obtain ⟨build, all, same⟩ := map_eq_ok_iff.1 reads
    exact ⟨fields, build, rfl, ofObject_of_readObject all, same⟩
  | _ => cases reads

theorem readOpen_iff {α : Type} {r : Record (KeyMap Json → α)} (sound : r.Sound) {name : String}
    {m : KeyMap Json} {x : α} : r.readOpen name (.ofMap m) = .ok x ↔
      ∃ build, r.ofObject m.entries = .ok build ∧
        build (m.filterKeys fun k => !r.names.contains k) = x := by
  constructor
  · intro reads
    obtain ⟨fields, build, same, all, -⟩ := readOpen_eq_ok reads
    obtain rfl := Json.object.inj same
    refine ⟨build, all, ?_⟩
    rw [readOpen_ofMap sound name all] at reads
    exact Except.ok.inj reads
  · rintro ⟨build, all, rfl⟩
    exact readOpen_ofMap sound name all

theorem get?_restOf_of_mem {α : Type} (r : Record α) {fields : List (String × Json)} {k : String}
    (known : k ∈ r.names) : (r.restOf fields).get? k = none := by
  rw [restOf, ofList, get?_insertAll_of_absent, get?_empty]
  intro member
  obtain ⟨e, kept, rfl⟩ := List.mem_map.1 member
  simpa [known] using (List.mem_filter.1 kept).2

end Record

structure Field.Yields {α : Type} (f : Field α) (Q : α → Prop) : Prop where
  read : ∀ v x, f.read v = .ok x → Q x
  absent : ∀ x, f.absent = some x → Q x

theorem Field.Yields.of_required {α : Type} {name : String} {read : Json → Except ReadFault α}
    {Q : α → Prop} (reads : ∀ v x, read v = .ok x → Q x) : (Field.required name read).Yields Q :=
  ⟨reads, fun _ absent => by cases absent⟩

theorem Field.Yields.trivial {α : Type} (f : Field α) : f.Yields fun _ => True :=
  ⟨fun _ _ _ => True.intro, fun _ _ => True.intro⟩

namespace Record

structure Yields {α : Type} (r : Record α) (P : α → Prop) : Prop where
  ofObject : ∀ fields x, r.ofObject fields = .ok x → P x
  ofItems : ∀ expected items x n rest, r.ofItems expected items = .ok (x, n, rest) → P x

theorem Yields.make {α : Type} {P : α → Prop} {x : α} (holds : P x) : (make x).Yields P where
  ofObject _ _ same := by
    cases same
    exact holds
  ofItems _ _ _ _ _ same := by
    cases same
    exact holds

theorem Yields.field {α β : Type} {r : Record (α → β)} {f : Field α} {P : (α → β) → Prop}
    {Q : α → Prop} {R : β → Prop} (first : r.Yields P) (last : f.Yields Q)
    (together : ∀ build x, P build → Q x → R (build x)) : (r.field f).Yields R where
  ofObject fields y reads := by
    obtain ⟨build, front, x, value, rfl⟩ := ofObject_field_iff.1 reads
    refine together build x (first.ofObject fields build front) ?_
    unfold Field.ofObject at value
    split at value
    · exact last.read _ x value
    · split at value
      · rename_i absent
        cases value
        exact last.absent x absent
      · cases value
  ofItems expected items y n rest reads := by
    obtain ⟨⟨build, count, more⟩, front, reads⟩ := bind_eq_ok_iff.1 reads
    have built := first.ofItems expected items build count more front
    dsimp only at reads
    split at reads
    · obtain ⟨x, value, same⟩ := map_eq_ok_iff.1 reads
      cases same
      exact together build x built (last.read _ x value)
    · rename_i x absent
      cases reads
      exact together build x built (last.absent x absent)
    · cases reads

theorem Yields.read {α : Type} {r : Record α} {P : α → Prop} (yields : r.Yields P) {name : String}
    {v : Json} {x : α} (reads : r.read name v = .ok x) : P x := by
  cases v with
  | object fields => exact yields.ofObject fields x (ofObject_of_readObject reads)
  | array items =>
    obtain ⟨⟨y, n, rest⟩, all, reads⟩ := bind_eq_ok_iff.1 reads
    dsimp only at reads
    split at reads
    · cases reads
      exact yields.ofItems _ items x n rest all
    · cases reads
  | _ => cases reads

end Record

end Reading

namespace Metadata

theorem ofObject_iff {fields : List (String × Json)} {build : KeyMap Json → Metadata} :
    record.ofObject fields = .ok build ↔ ∃ name namespaceName uid labels owners created,
      (Field.withDefault "name" text "").ofObject fields = .ok name ∧
      (Field.withDefault "namespace" text "").ofObject fields = .ok namespaceName ∧
      (Field.withDefault "uid" text "").ofObject fields = .ok uid ∧
      (Field.withDefault "labels" (orEmpty (map text) .empty) .empty).ofObject fields =
        .ok labels ∧
      (Field.withDefault "ownerReferences" (orEmpty (list OwnerReference.read) []) []).ofObject
        fields = .ok owners ∧
      (Field.optional "creationTimestamp" timestamp).ofObject fields = .ok created ∧
      build = Metadata.mk name namespaceName uid labels owners created := by
  simp only [record, Record.ofObject_field_iff, Record.ofObject_make_iff]
  constructor
  · rintro ⟨_, ⟨_, ⟨_, ⟨_, ⟨_, ⟨_, rfl, name, a, rfl⟩, namespaceName, b, rfl⟩, uid, c, rfl⟩,
      labels, d, rfl⟩, owners, e, rfl⟩, created, f, rfl⟩
    exact ⟨name, namespaceName, uid, labels, owners, created, a, b, c, d, e, f, rfl⟩
  · rintro ⟨name, namespaceName, uid, labels, owners, created, a, b, c, d, e, f, rfl⟩
    exact ⟨_, ⟨_, ⟨_, ⟨_, ⟨_, ⟨_, rfl, name, a, rfl⟩, namespaceName, b, rfl⟩, uid, c, rfl⟩,
      labels, d, rfl⟩, owners, e, rfl⟩, created, f, rfl⟩

theorem apart_of_read {v : Json} {m : Metadata} (reads : read v = .ok m) : m.Apart := by
  obtain ⟨fields, build, -, all, rfl⟩ := Record.readOpen_eq_ok reads
  obtain ⟨name, namespaceName, uid, labels, owners, created, -, -, -, -, -, -, rfl⟩ :=
    ofObject_iff.1 all
  exact fun k known => Record.get?_restOf_of_mem record known

theorem apart_empty : empty.Apart := fun _ _ => rfl

end Metadata

end PackageInstall
