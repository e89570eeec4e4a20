import PackageInstall.Proofs.Reading

namespace PackageInstall

open Reading KeyMap

theorem keys_textField (name value : String) :
    ((textField name value).map (·.1)).Sublist [name] := by
  by_cases none : value = "" <;> simp [textField, none]

theorem keys_optionalField {α : Type} (name : String) (write : α → Json) (value : Option α) :
    ((optionalField name write value).map (·.1)).Sublist [name] := by
  cases value <;> simp [optionalField]

theorem keys_listField {α : Type} (name : String) (write : α → Json) (values : List α) :
    ((listField name write values).map (·.1)).Sublist [name] := by
  cases values <;> simp [listField]

theorem keys_labelsField (name : String) (labels : Labels) :
    ((labelsField name labels).map (·.1)).Sublist [name] := by
  by_cases none : labels.isEmpty <;> simp [labelsField, none]

theorem lookup_of_keys {name k : String} {fields : List (String × Json)}
    (keys : (fields.map (·.1)).Sublist [name]) (other : k ≠ name) : lookup k fields = none :=
  lookup_eq_none_iff.2 fun member => other (List.mem_singleton.1 (keys.subset member))

theorem lookup_textField {name k : String} (other : k ≠ name) (value : String) :
    lookup k (textField name value) = none := lookup_of_keys (keys_textField name value) other

theorem lookup_optionalField {α : Type} {name k : String} (other : k ≠ name) (write : α → Json)
    (value : Option α) : lookup k (optionalField name write value) = none :=
  lookup_of_keys (keys_optionalField name write value) other

theorem lookup_listField {α : Type} {name k : String} (other : k ≠ name) (write : α → Json)
    (values : List α) : lookup k (listField name write values) = none :=
  lookup_of_keys (keys_listField name write values) other

theorem lookup_labelsField {name k : String} (other : k ≠ name) (labels : Labels) :
    lookup k (labelsField name labels) = none := lookup_of_keys (keys_labelsField name labels) other

namespace OwnerReference

def fields (r : OwnerReference) : List (String × Json) :=
  [("apiVersion", .text r.apiVersion), ("kind", .text r.kind), ("name", .text r.name),
    ("uid", .text r.uid)] ++
  optionalField "controller" .bool r.controller ++
  optionalField "blockOwnerDeletion" .bool r.blockOwnerDeletion

theorem nodup_fields (r : OwnerReference) : (r.fields.map (·.1)).Nodup := by
  have keys : (r.fields.map (·.1)).Sublist
      ["apiVersion", "kind", "name", "uid", "controller", "blockOwnerDeletion"] := by
    simp only [fields, List.map_append]
    exact ((List.Sublist.refl _).append (keys_optionalField _ _ _)).append
      (keys_optionalField _ _ _)
  exact List.Nodup.sublist keys (by decide)

theorem read_write (r : OwnerReference) : read r.write = .ok r := by
  let written := KeyMap.ofList r.fields
  have found : ∀ k, written.get? k = lookup k r.fields := get?_ofList r.nodup_fields
  have apiVersion : (Field.required "apiVersion" text).ofObject written.entries =
      .ok r.apiVersion :=
    Field.required_of_some (.text r.apiVersion) (by simp [found, fields, lookup]) rfl
  have kind : (Field.required "kind" text).ofObject written.entries = .ok r.kind :=
    Field.required_of_some (.text r.kind) (by simp [found, fields, lookup]) rfl
  have name : (Field.required "name" text).ofObject written.entries = .ok r.name :=
    Field.required_of_some (.text r.name) (by simp [found, fields, lookup]) rfl
  have uid : (Field.required "uid" text).ofObject written.entries = .ok r.uid :=
    Field.required_of_some (.text r.uid) (by simp [found, fields, lookup]) rfl
  have controller : (Field.optional "controller" bool).ofObject written.entries =
      .ok r.controller := by
    refine Field.optional_of_optionalField .bool ?_ (fun _ => rfl) (fun _ => by simp)
    simp [found, fields, lookup, lookup_append, lookup_optionalField]
  have blockOwnerDeletion : (Field.optional "blockOwnerDeletion" bool).ofObject written.entries =
      .ok r.blockOwnerDeletion := by
    refine Field.optional_of_optionalField .bool ?_ (fun _ => rfl) (fun _ => by simp)
    simp [found, fields, lookup, lookup_append, lookup_optionalField]
  exact (((((((Record.Reads.make OwnerReference.mk).field apiVersion).field kind).field
    name).field uid).field controller).field blockOwnerDeletion).read "OwnerReference"

end OwnerReference

namespace Metadata

/-- What is kept unread stands under other keys than what is read. -/
def Apart (m : Metadata) : Prop := ∀ k ∈ record.names, m.rest.get? k = none

theorem keys_fields (m : Metadata) : (m.fields.map (·.1)).Sublist record.names := by
  simp only [fields, List.map_append]
  exact (((((keys_textField _ _).append (keys_textField _ _)).append (keys_textField _ _)).append
    (keys_labelsField _ _)).append (keys_listField _ _ _)).append (keys_optionalField _ _ _)

theorem nodup_fields (m : Metadata) : (m.fields.map (·.1)).Nodup :=
  List.Nodup.sublist m.keys_fields (by decide)

def written (m : Metadata) : KeyMap Json := (KeyMap.ofList m.fields).union m.rest

theorem get?_written (m : Metadata) (k : String) :
    m.written.get? k = (m.rest.get? k).or (lookup k m.fields) := by
  rw [written, get?_union, get?_ofList m.nodup_fields]

theorem get?_written_of_mem {m : Metadata} (apart : m.Apart) {k : String}
    (member : k ∈ record.names) : m.written.get? k = lookup k m.fields := by
  rw [get?_written, apart k member, Option.none_or]

theorem lookup_name (m : Metadata) :
    lookup "name" m.fields = lookup "name" (textField "name" m.name) := by
  simp [fields, lookup_append, lookup_textField, lookup_labelsField, lookup_listField,
    lookup_optionalField]

theorem lookup_namespace (m : Metadata) :
    lookup "namespace" m.fields = lookup "namespace" (textField "namespace" m.namespaceName) := by
  simp [fields, lookup_append, lookup_textField, lookup_labelsField, lookup_listField,
    lookup_optionalField]

theorem lookup_uid (m : Metadata) :
    lookup "uid" m.fields = lookup "uid" (textField "uid" m.uid) := by
  simp [fields, lookup_append, lookup_textField, lookup_labelsField, lookup_listField,
    lookup_optionalField]

theorem lookup_labels (m : Metadata) :
    lookup "labels" m.fields = lookup "labels" (labelsField "labels" m.labels) := by
  simp [fields, lookup_append, lookup_textField, lookup_listField, lookup_optionalField]

theorem record_sound : record.Sound :=
  ((((((Record.Sound.make _).field _).field _).field _).field _).field _).field _

theorem rest_written {m : Metadata} (apart : m.Apart) :
    (m.written.filterKeys fun k => !record.names.contains k) = m.rest := by
  refine ext_get? fun k => ?_
  rw [get?_filterKeys]
  by_cases known : k ∈ record.names
  · simp [known, apart k known]
  · have unwritten : lookup k m.fields = none :=
      lookup_eq_none_iff.2 fun member => known (m.keys_fields.subset member)
    simp [known, get?_written, unwritten]

theorem read_write {m : Metadata} (apart : m.Apart) : read m.write = .ok m := by
  have found : ∀ k ∈ record.names, m.written.get? k = lookup k m.fields :=
    fun _ => get?_written_of_mem apart
  have name : (Field.withDefault "name" text "").ofObject m.written.entries = .ok m.name :=
    Field.text_of_textField ((found _ (by decide)).trans m.lookup_name)
  have namespaceName : (Field.withDefault "namespace" text "").ofObject m.written.entries =
      .ok m.namespaceName :=
    Field.text_of_textField ((found _ (by decide)).trans m.lookup_namespace)
  have uid : (Field.withDefault "uid" text "").ofObject m.written.entries = .ok m.uid :=
    Field.text_of_textField ((found _ (by decide)).trans m.lookup_uid)
  have labels : (Field.withDefault "labels" (orEmpty (map text) .empty) .empty).ofObject
      m.written.entries = .ok m.labels :=
    Field.orEmpty_of_ofObject ⟨_, rfl⟩
      (Field.map_of_labelsField ((found _ (by decide)).trans m.lookup_labels))
  have ownerReferences : (Field.withDefault "ownerReferences"
      (orEmpty (list OwnerReference.read) []) []).ofObject m.written.entries =
      .ok m.ownerReferences := by
    refine Field.orEmpty_of_ofObject ⟨_, rfl⟩ (Field.list_of_listField OwnerReference.write
      ((found _ (by decide)).trans ?_) fun r _ => r.read_write)
    simp [fields, lookup_append, lookup_textField, lookup_labelsField, lookup_optionalField]
  have creationTimestamp : (Field.optional "creationTimestamp" timestamp).ofObject
      m.written.entries = .ok m.creationTimestamp := by
    refine Field.optional_of_optionalField (fun t => .text t.text)
      ((found _ (by decide)).trans ?_) ?_ (fun _ => by simp)
    · simp [fields, lookup_append, lookup_textField, lookup_labelsField, lookup_listField]
    · intro t
      simp only [timestamp, Timestamp.ofText_text]
      rfl
  have all : record.Reads m.written fun rest => { m with rest := rest } :=
    ((((((Record.Reads.make Metadata.mk).field name).field namespaceName).field uid).field
      labels).field ownerReferences).field creationTimestamp
  have reads := all.readOpen "ObjectMeta"
  rw [rest_written apart] at reads
  exact reads

end Metadata

end PackageInstall
