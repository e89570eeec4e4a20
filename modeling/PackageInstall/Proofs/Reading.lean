import PackageInstall.Metadata
import PackageInstall.Proofs.KeyMap
import PackageInstall.Proofs.Timestamp

namespace PackageInstall.Reading

open KeyMap (lookup)

theorem forM_ok {α : Type} {l : List α} {check : α → Except ReadFault Unit}
    (passes : ∀ e ∈ l, check e = .ok ()) : l.forM check = .ok () := by
  induction l with
  | nil => rfl
  | cons e rest ih =>
    have tail := ih fun e' member => passes e' (List.mem_cons_of_mem _ member)
    rw [List.forM_eq_forM] at tail ⊢
    simp [passes e List.mem_cons_self, tail, bind, Except.bind]

namespace Field

variable {α : Type} {m : KeyMap Json} {name : String}

theorem ofObject_of_some {f : Field α} {value : Json} (found : m.get? f.name = some value) :
    f.ofObject m.entries = f.read value := by
  have here : lookup f.name m.entries = some value := found
  simp [ofObject, here]

theorem ofObject_of_none {f : Field α} {value : α} (missing : m.get? f.name = none)
    (absent : f.absent = some value) : f.ofObject m.entries = .ok value := by
  have here : lookup f.name m.entries = none := missing
  simp [ofObject, here, absent]

theorem ofObject_congr {f : Field α} {m' : KeyMap Json} (same : m.get? f.name = m'.get? f.name) :
    f.ofObject m.entries = f.ofObject m'.entries := by
  have found : lookup f.name m.entries = lookup f.name m'.entries := same
  rw [ofObject, ofObject, found]

theorem check_of_ofObject {f : Field α} {value : α} (reads : f.ofObject m.entries = .ok value)
    {e : String × Json} (member : e ∈ m.entries) : f.check e.1 e.2 = .ok () := by
  unfold check
  split
  · rename_i same
    have found : m.get? f.name = some e.2 := KeyMap.get?_eq_some.2 (same ▸ member)
    rw [ofObject_of_some found] at reads
    simp [reads, Except.map]
  · rfl

theorem required_of_some {read : Json → Except ReadFault α} (value : Json) {x : α}
    (found : m.get? name = some value) (reads : read value = .ok x) :
    (Field.required name read).ofObject m.entries = .ok x := by
  rw [← reads]
  exact ofObject_of_some found

theorem withDefault_of_some {read : Json → Except ReadFault α} (value : Json) {absent x : α}
    (found : m.get? name = some value) (reads : read value = .ok x) :
    (Field.withDefault name read absent).ofObject m.entries = .ok x := by
  rw [← reads]
  exact ofObject_of_some found

theorem text_of_textField {value : String}
    (found : m.get? name = lookup name (textField name value)) :
    (Field.withDefault name text "").ofObject m.entries = .ok value := by
  by_cases none : value = ""
  · subst none
    exact ofObject_of_none (by simpa [textField, lookup, withDefault] using found) rfl
  · exact withDefault_of_some (.text value) (by simpa [textField, lookup, none] using found) rfl

theorem optional_of_optionalField {read : Json → Except ReadFault α} (write : α → Json)
    {value : Option α} (found : m.get? name = lookup name (optionalField name write value))
    (reads : ∀ x, read (write x) = .ok x) (present : ∀ x, write x ≠ .null) :
    (Field.optional name read).ofObject m.entries = .ok value := by
  cases value with
  | none => exact ofObject_of_none (by simpa [optionalField, lookup, optional] using found) rfl
  | some x =>
    rw [ofObject_of_some (by simpa [optionalField, lookup, optional] using found)]
    have some := reads x
    have solid := present x
    cases shape : write x <;> simp_all [optional, Reading.optional, Except.map]

end Field

theorem list_write {α : Type} {read : Json → Except ReadFault α} {write : α → Json}
    {values : List α} (reads : ∀ x ∈ values, read (write x) = .ok x) :
    list read (.array (values.map write)) = .ok values := by
  induction values with
  | nil => rfl
  | cons x rest ih =>
    have head := reads x List.mem_cons_self
    have tail := ih fun y member => reads y (List.mem_cons_of_mem _ member)
    simp only [list] at tail ⊢
    simp [head, tail, bind, Except.bind, pure, Except.pure]

theorem map_text_write (labels : Labels) : map text labels.write = .ok labels := by
  have entries := KeyMap.entries_ofList (KeyMap.ordered_map Json.text labels.ordered)
  have texts : ∀ l : List (String × String), (l.map fun e => (e.1, Json.text e.2)).mapM
      (fun e => (text e.2).map (e.1, ·)) = .ok l := by
    intro l
    induction l with
    | nil => rfl
    | cons e rest ih =>
      have head : (text (Json.text e.2)).map (e.1, ·) = Except.ok e := rfl
      rw [List.map_cons, List.mapM_cons, ih, head]
      rfl
  simp only [Labels.write, Json.ofFields, map, entries, texts]
  simp [Except.map, KeyMap.ofList_entries]

namespace Field

variable {α : Type} {m : KeyMap Json} {name : String}

theorem map_of_labelsField {labels : Labels}
    (found : m.get? name = lookup name (labelsField name labels)) :
    (Field.withDefault name (map text) .empty).ofObject m.entries = .ok labels := by
  by_cases none : labels.isEmpty
  · have empty : labels = .empty := by
      refine KeyMap.ext_get? fun k => ?_
      have nil : labels.entries = [] := by simpa [KeyMap.isEmpty] using none
      simp [KeyMap.get?, KeyMap.empty, nil]
    rw [empty]
    exact ofObject_of_none (by simpa [labelsField, lookup, withDefault, none] using found) rfl
  · exact withDefault_of_some labels.write (by simpa [labelsField, lookup, none] using found)
      (map_text_write labels)

theorem list_of_listField {read : Json → Except ReadFault α} (write : α → Json) {values : List α}
    (found : m.get? name = lookup name (listField name write values))
    (reads : ∀ x ∈ values, read (write x) = .ok x) :
    (Field.withDefault name (list read) []).ofObject m.entries = .ok values := by
  cases values with
  | nil => exact ofObject_of_none (by simpa [listField, lookup, withDefault] using found) rfl
  | cons x rest =>
    exact withDefault_of_some _ (by simpa [listField, lookup] using found) (list_write reads)

theorem orEmpty_of_ofObject {read : Json → Except ReadFault α} {empty value : α}
    (refuses : ∃ fault, read .null = .error fault)
    (reads : (Field.withDefault name read empty).ofObject m.entries = .ok value) :
    (Field.withDefault name (orEmpty read empty) empty).ofObject m.entries = .ok value := by
  cases found : m.get? name with
  | none =>
    rw [ofObject_of_none found rfl] at reads ⊢
    exact reads
  | some v =>
    rw [ofObject_of_some found] at reads ⊢
    obtain ⟨fault, refuses⟩ := refuses
    have reads : read v = .ok value := reads
    cases v <;> simp_all [withDefault, orEmpty, Reading.optional, Except.map]

end Field

namespace Record

def Sound {α : Type} (r : Record α) : Prop :=
  ∀ (m : KeyMap Json) (value : α), r.ofObject m.entries = .ok value →
    ∀ e ∈ m.entries, r.check e.1 e.2 = .ok ()

theorem Sound.make {α : Type} (value : α) : (Record.make value).Sound := fun _ _ _ _ _ => rfl

theorem Sound.field {α β : Type} {r : Record (α → β)} (sound : r.Sound) (f : Field α) :
    (r.field f).Sound := by
  intro m value reads e member
  cases before : r.ofObject m.entries with
  | error fault => simp [Record.field, before, bind, Except.bind] at reads
  | ok build =>
    cases last : f.ofObject m.entries with
    | error fault =>
      simp [Record.field, before, last, bind, Except.bind, Functor.map, Except.map] at reads
    | ok x =>
      simp [Record.field, sound m build before e member, Field.check_of_ofObject last member, bind,
        Except.bind]

theorem readObject_of_fields {α : Type} {r : Record α} (sound : r.Sound) {m : KeyMap Json}
    {value : α} (reads : r.ofObject m.entries = .ok value) :
    r.readObject m.entries = .ok value := by
  have checks : m.entries.forM (fun e => r.check e.1 e.2) = .ok () :=
    forM_ok (sound m value reads)
  simp [readObject, checks, reads, bind, Except.bind]

theorem read_ofMap {α : Type} {r : Record α} (sound : r.Sound) (name : String) {m : KeyMap Json}
    {value : α} (reads : r.ofObject m.entries = .ok value) :
    r.read name (.ofMap m) = .ok value := readObject_of_fields sound reads

theorem readOpen_ofMap {α : Type} {r : Record (KeyMap Json → α)} (sound : r.Sound)
    (name : String) {m : KeyMap Json} {build : KeyMap Json → α}
    (reads : r.ofObject m.entries = .ok build) :
    r.readOpen name (.ofMap m) = .ok (build (m.filterKeys fun k => !r.names.contains k)) := by
  have rest : r.restOf m.entries = m.filterKeys fun k => !r.names.contains k := by
    refine KeyMap.ext_get? fun k => ?_
    rw [restOf, KeyMap.get?_ofList_filter m fun k => !r.names.contains k, KeyMap.get?_filterKeys]
  simp [Json.ofMap, readOpen, readObject_of_fields sound reads, rest, Functor.map, Except.map]

structure Reads {α : Type} (r : Record α) (m : KeyMap Json) (value : α) : Prop where
  sound : r.Sound
  all : r.ofObject m.entries = .ok value

namespace Reads

variable {α β : Type} {m : KeyMap Json}

theorem make (value : α) : (Record.make value).Reads m value := ⟨.make value, rfl⟩

theorem field {r : Record (α → β)} {build : α → β} {f : Field α} {x : α} (reads : r.Reads m build)
    (last : f.ofObject m.entries = .ok x) : (r.field f).Reads m (build x) where
  sound := reads.sound.field f
  all := by
    simp [Record.field, reads.all, last, bind, Except.bind, Functor.map, Except.map]

theorem read {r : Record α} {value : α} (reads : r.Reads m value) (name : String) :
    r.read name (.ofMap m) = .ok value := read_ofMap reads.sound name reads.all

theorem readOpen {r : Record (KeyMap Json → α)} {build : KeyMap Json → α}
    (reads : r.Reads m build) (name : String) :
    r.readOpen name (.ofMap m) = .ok (build (m.filterKeys fun k => !r.names.contains k)) :=
  readOpen_ofMap reads.sound name reads.all

end Reads

end Record

end PackageInstall.Reading
