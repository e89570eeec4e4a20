import PackageInstall.Proofs.Decoding
import PackageInstall.Proofs.Resource

namespace PackageInstall

open Reading KeyMap

namespace Json

def field? : Json → String → Option Json
  | .object fields, k => lookup k fields
  | _, _ => none

def about? (v : Json) (k : String) : Option Json := (v.field? "metadata").bind (·.field? k)

/-- A value whose objects, at any depth, have each key once and in order. -/
inductive Formed : Json → Prop where
  | null : Formed .null
  | bool (b : Bool) : Formed (.bool b)
  | int (n : Int) : Formed (.int n)
  | float (x : Binary64) : Formed (.float x)
  | text (s : String) : Formed (.text s)
  | array {items : List Json} : (∀ v ∈ items, Formed v) → Formed (.array items)
  | object {fields : List (String × Json)} : fields.Pairwise (fun a b => a.1 < b.1) →
    (∀ e ∈ fields, Formed e.2) → Formed (.object fields)

theorem field?_ofMap (m : KeyMap Json) (k : String) : (ofMap m).field? k = m.get? k := rfl

theorem Formed.exists_map {v : Json} (formed : v.Formed) (isObject : Object.isObject v = true) :
    ∃ m : KeyMap Json, v = .ofMap m ∧ ∀ k w, m.get? k = some w → w.Formed := by
  cases formed with
  | @object fields ordered formed =>
    refine ⟨⟨fields, ordered⟩, rfl, fun k w found => ?_⟩
    exact formed (k, w) (get?_eq_some.1 found)
  | _ => cases isObject

structure DescribesObject (v : Json) : Prop where
  fields : ∃ fields, v = .object fields
  kind : ∃ s, s ≠ "" ∧ v.field? "kind" = some (.text s)
  apiVersion : ∃ s, s ≠ "" ∧ v.field? "apiVersion" = some (.text s)
  metadata : v.field? "metadata" = none ∨ v.field? "metadata" = some .null ∨
    ∃ about m, v.field? "metadata" = some about ∧ Metadata.read about = .ok m

end Json

namespace Metadata

def ReadFrom (m : Metadata) (source : Option Json) : Prop :=
  (source = none ∨ source = some .null) ∧ m = .empty ∨ ∃ v, source = some v ∧ read v = .ok m

theorem readFrom_iff {fields : KeyMap Json} {m : Metadata} :
    (Field.withDefault "metadata" (orEmpty read .empty) .empty).ofObject fields.entries = .ok m ↔
      m.ReadFrom (fields.get? "metadata") := by
  have solid : ∀ v, read v = .ok m → v ≠ .null := by
    rintro v reads rfl
    cases reads
  rw [Field.withDefault_eq_ok_iff, ReadFrom]
  constructor
  · rintro (⟨missing, rfl⟩ | ⟨v, found, reads⟩)
    · exact .inl ⟨.inl missing, rfl⟩
    · rcases orEmpty_eq_ok_iff.1 reads with ⟨rfl, rfl⟩ | ⟨-, reads⟩
      · exact .inl ⟨.inr found, rfl⟩
      · exact .inr ⟨v, found, reads⟩
  · rintro (⟨missing | null, rfl⟩ | ⟨v, found, reads⟩)
    · exact .inl ⟨missing, rfl⟩
    · exact .inr ⟨_, null, rfl⟩
    · exact .inr ⟨v, found, orEmpty_eq_ok_iff.2 (.inr ⟨solid v reads, reads⟩)⟩

variable {m : Metadata} {source : Option Json}

theorem ReadFrom.apart (reads : m.ReadFrom source) : m.Apart := by
  rcases reads with ⟨-, rfl⟩ | ⟨v, -, reads⟩
  · exact apart_empty
  · exact apart_of_read reads

theorem ReadFrom.cases (reads : m.ReadFrom source) (formed : ∀ v, source = some v → v.Formed) :
    (∀ k, source.bind (·.field? k) = none) ∧ m = .empty ∨
      ∃ fields : KeyMap Json, source = some (.ofMap fields) ∧
        (∀ k w, fields.get? k = some w → w.Formed) ∧ read (.ofMap fields) = .ok m := by
  rcases reads with ⟨missing | null, rfl⟩ | ⟨v, found, reads⟩
  · exact .inl ⟨fun k => by rw [missing]; rfl, rfl⟩
  · exact .inl ⟨fun k => by rw [null]; rfl, rfl⟩
  · obtain ⟨fields, -, shape, -, -⟩ := Record.readOpen_eq_ok reads
    have isObject : Object.isObject v = true := by
      rw [shape]
      rfl
    obtain ⟨fields, rfl, parts⟩ := (formed v found).exists_map isObject
    exact .inr ⟨fields, found, parts, reads⟩

theorem ReadFrom.rest (reads : m.ReadFrom source) (formed : ∀ v, source = some v → v.Formed)
    (k : String) :
    m.rest.get? k = if k ∈ record.names then none else source.bind (·.field? k) := by
  rcases reads.cases formed with ⟨nothing, rfl⟩ | ⟨fields, rfl, -, reads⟩
  · rw [nothing k, ite_self]
    rfl
  · obtain ⟨build, all, rfl⟩ := (Record.readOpen_iff record_sound).1 reads
    obtain ⟨_, _, _, _, _, _, -, -, -, -, -, -, rfl⟩ := ofObject_iff.1 all
    show (fields.filterKeys fun k => !record.names.contains k).get? k = _
    rw [get?_filterKeys]
    by_cases known : k ∈ record.names
    · simp [known]
    · simp [known, Json.field?_ofMap]

theorem lookup_fields_of_unknown (m : Metadata) {k : String} (unknown : k ∉ record.names) :
    lookup k m.fields = none :=
  lookup_eq_none_iff.2 fun member => unknown (m.keys_fields.subset member)

theorem ReadFrom.written_of_unknown (reads : m.ReadFrom source)
    (formed : ∀ v, source = some v → v.Formed) {k : String} (unknown : k ∉ record.names) :
    m.write.field? k = source.bind (·.field? k) := by
  have written : m.write.field? k = m.written.get? k := rfl
  rw [written, get?_written, m.lookup_fields_of_unknown unknown, Option.or_none,
    reads.rest formed, if_neg unknown]

theorem text_of_withDefault {fields : KeyMap Json} {name s t : String}
    (reads : (Field.withDefault name text "").ofObject fields.entries = .ok t)
    (found : fields.get? name = some (.text s)) : t = s := by
  rcases Field.withDefault_eq_ok_iff.1 reads with ⟨missing, -⟩ | ⟨v, there, reads⟩
  · rw [missing] at found
    cases found
  · rw [there] at found
    rw [Option.some.inj found] at reads
    exact (Json.text.inj (text_eq_ok_iff.1 reads)).symm

theorem lookup_textField_self {name s : String} (solid : s ≠ "") :
    lookup name (textField name s) = some (.text s) := by
  simp [textField, solid, lookup]

theorem ReadFrom.written_text (reads : m.ReadFrom source)
    (formed : ∀ v, source = some v → v.Formed) {k s : String}
    (known : k ∈ ["name", "namespace", "uid"]) (solid : s ≠ "")
    (found : source.bind (·.field? k) = some (.text s)) :
    m.write.field? k = some (.text s) := by
  have written : m.write.field? k = m.written.get? k := rfl
  have named : k ∈ record.names := by
    have names : ["name", "namespace", "uid"] ⊆ record.names := by decide
    exact names known
  rw [written, get?_written_of_mem reads.apart named]
  rcases reads.cases formed with ⟨nothing, rfl⟩ | ⟨fields, rfl, -, reads⟩
  · rw [nothing k] at found
    cases found
  · obtain ⟨build, all, rfl⟩ := (Record.readOpen_iff record_sound).1 reads
    obtain ⟨name, namespaceName, uid, _, _, _, a, b, c, -, -, -, rfl⟩ := ofObject_iff.1 all
    have there : fields.get? k = some (.text s) := found
    simp only [List.mem_cons, List.not_mem_nil, or_false] at known
    rcases known with rfl | rfl | rfl
    · rw [lookup_name, text_of_withDefault a there, lookup_textField_self solid]
    · rw [lookup_namespace, text_of_withDefault b there, lookup_textField_self solid]
    · rw [lookup_uid, text_of_withDefault c there, lookup_textField_self solid]

theorem texts_of_mapM {fields : List (String × Json)} {texts : List (String × String)}
    (reads : fields.mapM (fun e => (text e.2).map (e.1, ·)) = .ok texts) :
    fields = texts.map fun e => (e.1, .text e.2) := by
  induction fields generalizing texts with
  | nil =>
    cases reads
    rfl
  | cons e rest ih =>
    rw [List.mapM_cons] at reads
    obtain ⟨pair, head, reads⟩ := bind_eq_ok_iff.1 reads
    obtain ⟨more, tail, whole⟩ := bind_eq_ok_iff.1 reads
    obtain ⟨s, isText, rfl⟩ := map_eq_ok_iff.1 head
    cases whole
    rw [List.map_cons, ← ih tail, ← text_eq_ok_iff.1 isText]

theorem write_of_map_text {fields : List (String × Json)} {labels : Labels}
    (ordered : fields.Pairwise fun a b => a.1 < b.1)
    (reads : map text (.object fields) = .ok labels) : labels.write = .object fields := by
  obtain ⟨texts, all, rfl⟩ := map_eq_ok_iff.1 reads
  have same := texts_of_mapM all
  have sorted : texts.Pairwise fun a b => a.1 < b.1 := by
    rw [same, List.pairwise_map] at ordered
    exact ordered
  rw [Labels.write, entries_ofList sorted, ← same, Json.ofFields, entries_ofList ordered]

theorem ReadFrom.written_labels (reads : m.ReadFrom source)
    (formed : ∀ v, source = some v → v.Formed) {labels : List (String × Json)}
    (some : labels ≠ []) (found : source.bind (·.field? "labels") = .some (.object labels)) :
    m.write.field? "labels" = .some (.object labels) := by
  have written : m.write.field? "labels" = m.written.get? "labels" := rfl
  rw [written, get?_written_of_mem reads.apart (by decide), lookup_labels]
  rcases reads.cases formed with ⟨nothing, rfl⟩ | ⟨fields, rfl, parts, reads⟩
  · rw [nothing] at found
    cases found
  · obtain ⟨build, all, rfl⟩ := (Record.readOpen_iff record_sound).1 reads
    obtain ⟨_, _, _, kept, _, _, -, -, -, d, -, -, rfl⟩ := ofObject_iff.1 all
    have there : fields.get? "labels" = .some (.object labels) := found
    cases parts _ _ there with
    | object ordered _ =>
    rcases Field.withDefault_eq_ok_iff.1 d with ⟨missing, -⟩ | ⟨v, here, reads⟩
    · rw [missing] at there
      cases there
    · rw [here] at there
      rw [Option.some.inj there] at reads
      rcases orEmpty_eq_ok_iff.1 reads with ⟨null, -⟩ | ⟨-, reads⟩
      · cases null
      · have same : Labels.write kept = .object labels := write_of_map_text ordered reads
        have filled : kept.isEmpty = false := by
          rw [KeyMap.isEmpty, List.isEmpty_eq_false_iff]
          intro empty
          rw [Labels.write, empty] at same
          exact some (Json.object.inj same).symm
        show lookup "labels" (labelsField "labels" kept) = _
        simp [labelsField, filled, lookup, same]

end Metadata

namespace Object

variable {v : Json} {m : KeyMap Json} {d : Object}

theorem ofJson_of_read {fields : List (String × Json)} (reads : read (.object fields) = .ok d) :
    ofJson (.object fields) =
      if d.kind = "" then .error (.missingField "kind")
      else if d.apiVersion = "" then .error (.missingField "apiVersion") else .ok d := by
  rw [ofJson, reads]
  rfl

theorem ofJson_of_read_error {fields : List (String × Json)} {e : ReadFault}
    (fails : read (.object fields) = .error e) :
    ofJson (.object fields) = .error (.serialization e) := by
  rw [ofJson, fails]
  rfl

theorem ofJson_eq_ok_iff :
    ofJson v = .ok d ↔ read v = .ok d ∧ d.kind ≠ "" ∧ d.apiVersion ≠ "" := by
  cases v with
  | object fields =>
    cases reads : read (.object fields) with
    | error e => simp [ofJson_of_read_error reads]
    | ok o =>
      rw [ofJson_of_read reads, Except.ok.injEq]
      constructor
      · intro done
        split at done
        · cases done
        · split at done
          · cases done
          · rename_i kind version
            cases done
            exact ⟨rfl, kind, version⟩
      · rintro ⟨rfl, kind, version⟩
        rw [if_neg kind, if_neg version]
  | _ =>
    simp [ofJson, isObject, read, Record.readOpen, throw, throwThe, MonadExceptOf.throw, bind,
      Except.bind]

theorem ofObject_iff {build : KeyMap Json → Object} :
    record.ofObject m.entries = .ok build ↔ ∃ apiVersion kind metadata,
      (Field.withDefault "apiVersion" text "").ofObject m.entries = .ok apiVersion ∧
      (Field.withDefault "kind" text "").ofObject m.entries = .ok kind ∧
      metadata.ReadFrom (m.get? "metadata") ∧ build = Object.mk apiVersion kind metadata := by
  simp only [record, Record.ofObject_field_iff, Record.ofObject_make_iff, Metadata.readFrom_iff]
  constructor
  · rintro ⟨_, ⟨_, ⟨_, rfl, apiVersion, a, rfl⟩, kind, b, rfl⟩, metadata, c, rfl⟩
    exact ⟨apiVersion, kind, metadata, a, b, c, rfl⟩
  · rintro ⟨apiVersion, kind, metadata, a, b, c, rfl⟩
    exact ⟨_, ⟨_, ⟨_, rfl, apiVersion, a, rfl⟩, kind, b, rfl⟩, metadata, c, rfl⟩

theorem named_iff {name s : String} :
    (Field.withDefault name text "").ofObject m.entries = .ok s ∧ s ≠ "" ↔
      s ≠ "" ∧ m.get? name = some (.text s) := by
  rw [Field.withDefault_eq_ok_iff]
  constructor
  · rintro ⟨⟨-, rfl⟩ | ⟨v, found, reads⟩, solid⟩
    · exact absurd rfl solid
    · rw [text_eq_ok_iff] at reads
      exact ⟨solid, reads ▸ found⟩
  · rintro ⟨solid, found⟩
    exact ⟨.inr ⟨_, found, rfl⟩, solid⟩

theorem ofJson_iff : ofJson (.ofMap m) = .ok d ↔
    (d.kind ≠ "" ∧ m.get? "kind" = some (.text d.kind)) ∧
    (d.apiVersion ≠ "" ∧ m.get? "apiVersion" = some (.text d.apiVersion)) ∧
    d.metadata.ReadFrom (m.get? "metadata") ∧
    d.rest = m.filterKeys fun k => !record.names.contains k := by
  rw [ofJson_eq_ok_iff, read, Record.readOpen_iff record_sound, ← named_iff, ← named_iff]
  constructor
  · rintro ⟨⟨build, all, rfl⟩, kind, version⟩
    obtain ⟨_, _, _, a, b, c, rfl⟩ := ofObject_iff.1 all
    exact ⟨⟨b, kind⟩, ⟨a, version⟩, c, rfl⟩
  · rintro ⟨⟨b, kind⟩, ⟨a, version⟩, c, rest⟩
    refine ⟨⟨_, ofObject_iff.2 ⟨_, _, _, a, b, c, rfl⟩, ?_⟩, kind, version⟩
    rw [← rest]

theorem rest_written (apart : ∀ k ∈ record.names, d.rest.get? k = none) :
    (d.written.filterKeys fun k => !record.names.contains k) = d.rest := by
  refine ext_get? fun k => ?_
  rw [get?_filterKeys]
  by_cases known : k ∈ record.names
  · simp [known, apart k known]
  · have unwritten : lookup k d.fields = none := lookup_eq_none_iff.2 known
    simp [known, get?_written, unwritten]

theorem ofJson_write (kind : d.kind ≠ "") (version : d.apiVersion ≠ "")
    (apart : ∀ k ∈ record.names, d.rest.get? k = none) (about : d.metadata.Apart) :
    ofJson d.write = .ok d := by
  have written : ∀ k ∈ record.names, d.written.get? k = lookup k d.fields := fun k known => by
    rw [get?_written, apart k known, Option.none_or]
  refine ofJson_iff.2 ⟨⟨kind, written _ (by decide)⟩, ⟨version, written _ (by decide)⟩, ?_,
    (rest_written apart).symm⟩
  exact .inr ⟨_, written _ (by decide), Metadata.read_write about⟩

theorem rest_of_ofJson (reads : ofJson (.ofMap m) = .ok d) (k : String) :
    d.rest.get? k = if k ∈ record.names then none else m.get? k := by
  obtain ⟨-, -, -, rest⟩ := ofJson_iff.1 reads
  rw [rest, get?_filterKeys]
  by_cases known : k ∈ record.names <;> simp [known]

theorem get?_written_of_ofJson (reads : ofJson (.ofMap m) = .ok d) :
    d.written.get? "metadata" = some d.metadata.write ∧
      ∀ k, k ≠ "metadata" → d.written.get? k = m.get? k := by
  obtain ⟨⟨-, kind⟩, ⟨-, version⟩, -, -⟩ := ofJson_iff.1 reads
  have kept := rest_of_ofJson reads
  have known : ∀ k ∈ record.names, d.written.get? k = lookup k d.fields := fun k known => by
    rw [get?_written, kept, if_pos known, Option.none_or]
  refine ⟨known _ (by decide), fun k other => ?_⟩
  by_cases named : k ∈ record.names
  · have names : k ∈ ["apiVersion", "kind", "metadata"] := named
    simp only [List.mem_cons, List.not_mem_nil, or_false] at names
    rcases names with rfl | rfl | rfl
    · rw [known _ named, version]
      rfl
    · rw [known _ named, kind]
      rfl
    · exact absurd rfl other
  · have unwritten : lookup k d.fields = none := lookup_eq_none_iff.2 named
    rw [get?_written, kept, if_neg named, unwritten, Option.or_none]

structure Keeps (d : Object) (v : Json) : Prop where
  rest : ∀ k, d.rest.get? k =
    if k ∈ ["apiVersion", "kind", "metadata"] then none else v.field? k
  metadataRest : ∀ k, d.metadata.rest.get? k =
    if k ∈ ["name", "namespace", "uid", "labels", "ownerReferences", "creationTimestamp"] then none
    else v.about? k
  again : ofJson d.write = .ok d
  written : ∀ k, k ≠ "metadata" → d.write.field? k = v.field? k
  aboutRest : ∀ k,
    k ∉ ["name", "namespace", "uid", "labels", "ownerReferences", "creationTimestamp"] →
      d.write.about? k = v.about? k
  aboutText : ∀ k ∈ ["name", "namespace", "uid"], ∀ s, s ≠ "" →
    v.about? k = some (.text s) → d.write.about? k = some (.text s)
  aboutLabels : ∀ labels, labels ≠ [] →
    v.about? "labels" = some (.object labels) → d.write.about? "labels" = some (.object labels)

theorem keeps_of_ofJson (formed : ∀ k w, m.get? k = some w → w.Formed)
    (reads : ofJson (.ofMap m) = .ok d) : d.Keeps (.ofMap m) := by
  obtain ⟨⟨named, -⟩, ⟨versioned, -⟩, about, -⟩ := ofJson_iff.1 reads
  have formed : ∀ w, m.get? "metadata" = some w → w.Formed := formed "metadata"
  have kept := rest_of_ofJson reads
  obtain ⟨metadata, written⟩ := get?_written_of_ofJson reads
  have apart : ∀ k ∈ record.names, d.rest.get? k = none := fun k known => by
    rw [kept, if_pos known]
  have told : ∀ k, d.write.about? k = d.metadata.write.field? k := by
    intro k
    have found : d.write.field? "metadata" = some d.metadata.write := metadata
    rw [Json.about?, found, Option.bind_some]
  exact {
    rest := kept
    metadataRest := about.rest formed
    again := ofJson_write named versioned apart about.apart
    written := written
    aboutRest := fun k unknown => by
      rw [told]
      exact about.written_of_unknown formed unknown
    aboutText := fun k known s solid found => by
      rw [told]
      exact about.written_text formed known solid found
    aboutLabels := fun labels some found => by
      rw [told]
      exact about.written_labels formed some found }

/-- Objects lose nothing of what they are read from. -/
theorem ofJson_lossless (formed : v.Formed) :
    ((∃ d, ofJson v = .ok d) ↔ v.DescribesObject) ∧ ∀ d, ofJson v = .ok d → d.Keeps v := by
  by_cases isObject : Object.isObject v = true
  · obtain ⟨m, rfl, parts⟩ := formed.exists_map isObject
    refine ⟨⟨?_, ?_⟩, fun d reads => keeps_of_ofJson parts reads⟩
    · rintro ⟨d, reads⟩
      obtain ⟨⟨named, kind⟩, ⟨versioned, version⟩, about, -⟩ := ofJson_iff.1 reads
      refine ⟨⟨_, rfl⟩, ⟨_, named, kind⟩, ⟨_, versioned, version⟩, ?_⟩
      rcases about with ⟨missing | null, -⟩ | ⟨w, found, reads⟩
      · exact .inl missing
      · exact .inr (.inl null)
      · exact .inr (.inr ⟨w, _, found, reads⟩)
    · rintro ⟨-, ⟨kind, named, isKind⟩, ⟨version, versioned, isVersion⟩, about⟩
      have metadata : ∃ a : Metadata, a.ReadFrom (m.get? "metadata") := by
        rcases about with missing | null | ⟨w, a, found, reads⟩
        · exact ⟨.empty, .inl ⟨.inl missing, rfl⟩⟩
        · exact ⟨.empty, .inl ⟨.inr null, rfl⟩⟩
        · exact ⟨a, .inr ⟨w, found, reads⟩⟩
      obtain ⟨a, reads⟩ := metadata
      exact ⟨⟨version, kind, a, _⟩,
        ofJson_iff.2 ⟨⟨named, isKind⟩, ⟨versioned, isVersion⟩, reads, rfl⟩⟩
  · have refuses : ofJson v = .error .notAnObject := by
      cases v with
      | object fields => exact absurd rfl isObject
      | _ => rfl
    refine ⟨⟨?_, ?_⟩, ?_⟩
    · rintro ⟨d, reads⟩
      rw [refuses] at reads
      cases reads
    · rintro ⟨⟨fields, rfl⟩, -⟩
      exact absurd rfl isObject
    · intro d reads
      rw [refuses] at reads
      cases reads

def sampleValue : Json :=
  let labels : Json := .object [("app", .text "redis")]
  .object [("apiVersion", .text "v1"), ("data", .object [("size", .null)]),
    ("kind", .text "ConfigMap"),
    ("metadata", .object [("annotations", .null), ("labels", labels), ("name", .text "settings")])]

theorem sampleValue_formed : sampleValue.Formed := by
  have data : (Json.object [("size", .null)]).Formed :=
    .object (List.pairwise_singleton _ _) (by simpa using .null)
  have labels : (Json.object [("app", .text "redis")]).Formed :=
    .object (List.pairwise_singleton _ _) (by simpa using .text "redis")
  have metadata : (Json.object [("annotations", .null),
      ("labels", .object [("app", .text "redis")]), ("name", .text "settings")]).Formed :=
    .object (by decide) (by simpa using ⟨.null, labels, .text "settings"⟩)
  exact .object (by decide) (by simpa using ⟨.text "v1", data, .text "ConfigMap", metadata⟩)

theorem ofJson_lossless_sample : sampleValue.Formed ∧ ∃ d, ofJson sampleValue = .ok d ∧
    d.rest.get? "data" = some (.object [("size", .null)]) ∧
    d.metadata.rest.get? "annotations" = some .null ∧
    d.write.about? "labels" = some (.object [("app", .text "redis")]) := by
  obtain ⟨reads, keeps⟩ := ofJson_lossless sampleValue_formed
  obtain ⟨d, read⟩ := reads.2
    ⟨⟨_, rfl⟩, ⟨"ConfigMap", by decide, rfl⟩, ⟨"v1", by decide, rfl⟩, .inr (.inr ⟨_, _, rfl, rfl⟩)⟩
  have kept := keeps d read
  refine ⟨sampleValue_formed, d, read, ?_, ?_, kept.aboutLabels _ (by decide) rfl⟩
  · rw [kept.rest]
    rfl
  · rw [kept.metadataRest]
    rfl

end Object

end PackageInstall
