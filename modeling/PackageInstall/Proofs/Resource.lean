import PackageInstall.ClusterRole
import PackageInstall.Proofs.Metadata

namespace PackageInstall

open Reading KeyMap

namespace Object

theorem nodup_fields (o : Object) : (o.fields.map (·.1)).Nodup := by
  have keys : o.fields.map (·.1) = ["apiVersion", "kind", "metadata"] := rfl
  rw [keys]
  decide

def written (o : Object) : KeyMap Json := (KeyMap.ofList o.fields).union o.rest

theorem get?_written (o : Object) (k : String) :
    o.written.get? k = (o.rest.get? k).or (lookup k o.fields) := by
  rw [written, get?_union, get?_ofList o.nodup_fields]

theorem record_sound : record.Sound := (((Record.Sound.make _).field _).field _).field _

theorem read_of_fields {m : KeyMap Json} {apiVersion kind : String} {metadata : Metadata}
    (version : m.get? "apiVersion" = some (.text apiVersion))
    (name : m.get? "kind" = some (.text kind))
    (about : m.get? "metadata" = some metadata.write) (apart : metadata.Apart) :
    read (.ofMap m) =
      .ok ⟨apiVersion, kind, metadata, m.filterKeys fun k => !record.names.contains k⟩ := by
  have versionField : (Field.withDefault "apiVersion" text "").ofObject m.entries =
      .ok apiVersion := Field.withDefault_of_some (.text apiVersion) version rfl
  have kindField : (Field.withDefault "kind" text "").ofObject m.entries = .ok kind :=
    Field.withDefault_of_some (.text kind) name rfl
  have metadataField : (Field.withDefault "metadata" (orEmpty Metadata.read .empty)
      .empty).ofObject m.entries = .ok metadata := by
    refine Field.withDefault_of_some metadata.write about ?_
    have reads := Metadata.read_write apart
    simp only [Metadata.write, Json.ofMap] at reads ⊢
    simp [orEmpty, Reading.optional, reads, Except.map]
  exact ((((Record.Reads.make Object.mk).field versionField).field kindField).field
    metadataField).readOpen "DynamicObject"

end Object

namespace Resource

variable {α : Type} [Resource α]

def object (x : α) : Object where
  apiVersion := (coordinates x).apiVersion
  kind := (coordinates x).kind
  metadata := metadata x
  rest := (fields x).filterKeys fun k => !Object.record.names.contains k

theorem toObject_eq {x : α} (about : (fields x).get? "metadata" = some (metadata x).write)
    (apart : (metadata x).Apart) : toObject x = .ok (object x) := by
  let marked := ((fields x).insert "apiVersion" (.text (coordinates x).apiVersion)).insert "kind"
    (.text (coordinates x).kind)
  have version : marked.get? "apiVersion" = some (.text (coordinates x).apiVersion) := by
    simp [marked]
  have kind : marked.get? "kind" = some (.text (coordinates x).kind) := by simp [marked]
  have reads := Object.read_of_fields version kind (by simpa [marked] using about) apart
  have rest : (marked.filterKeys fun k => !Object.record.names.contains k) =
      (object x).rest := by
    refine ext_get? fun k => ?_
    simp only [object, get?_filterKeys]
    by_cases known : k ∈ Object.record.names
    · simp [known]
    · have noKind : k ≠ "kind" := by rintro rfl; exact known (by decide)
      have noVersion : k ≠ "apiVersion" := by rintro rfl; exact known (by decide)
      simp [known, marked, noKind, noVersion]
  rw [rest] at reads
  exact congrArg (Except.mapError ConversionError.serialization) reads

def objectWith (x : α) (m : Metadata) : Object := { object x with metadata := m }

theorem get?_objectWith (x : α) (m : Metadata) (k : String) :
    (objectWith x m).written.get? k =
      if k ∈ Object.record.names then lookup k (objectWith x m).fields else (fields x).get? k := by
  have kept : (objectWith x m).rest.get? k =
      if !Object.record.names.contains k then (fields x).get? k else none := get?_filterKeys _ _ _
  rw [Object.get?_written, kept]
  by_cases known : k ∈ Object.record.names
  · simp [known]
  · have unwritten : lookup k (objectWith x m).fields = none := lookup_eq_none_iff.2 known
    simp [known, unwritten]

end Resource

theorem Selector.read_write (s : Selector) : Selector.read s.write = .ok s := by
  let written := KeyMap.ofList (labelsField "matchLabels" s.matchLabels)
  have nodup : ((labelsField "matchLabels" s.matchLabels).map (·.1)).Nodup :=
    List.Nodup.sublist (keys_labelsField _ _) (by decide)
  have matchLabels : (Field.withDefault "matchLabels" (map text) .empty).ofObject
      written.entries = .ok s.matchLabels := Field.map_of_labelsField (get?_ofList nodup _)
  exact ((Record.Reads.make Selector.mk).field matchLabels).read "LabelSelector"

theorem AggregationRule.read_write (r : AggregationRule) :
    AggregationRule.read r.write = .ok r := by
  let written := KeyMap.ofList
    [("clusterRoleSelectors", Json.array (r.selectors.map Selector.write))]
  have selectors : (Field.required "clusterRoleSelectors" (list Selector.read)).ofObject
      written.entries = .ok r.selectors :=
    Field.required_of_some _ rfl (list_write fun s _ => s.read_write)
  exact ((Record.Reads.make AggregationRule.mk).field selectors).read "AggregationRule"

theorem PolicyRule.read_write (r : PolicyRule) : PolicyRule.read r.write = .ok r := by
  let written := KeyMap.ofList [("apiGroups", texts r.apiGroups), ("resources", texts r.resources),
    ("verbs", texts r.verbs)]
  have found : ∀ k, written.get? k = lookup k [("apiGroups", texts r.apiGroups),
      ("resources", texts r.resources), ("verbs", texts r.verbs)] :=
    get?_ofList (by simp)
  have apiGroups : (Field.withDefault "apiGroups" (list text) []).ofObject written.entries =
      .ok r.apiGroups :=
    Field.withDefault_of_some _ (found _) (list_write fun _ _ => rfl)
  have resources : (Field.withDefault "resources" (list text) []).ofObject written.entries =
      .ok r.resources :=
    Field.withDefault_of_some _ (found _) (list_write fun _ _ => rfl)
  have verbs : (Field.required "verbs" (list text)).ofObject written.entries = .ok r.verbs :=
    Field.required_of_some _ (found _) (list_write fun _ _ => rfl)
  exact ((((Record.Reads.make PolicyRule.mk).field apiGroups).field resources).field
    verbs).read "PolicyRule"

namespace ClusterRole

def entries (r : ClusterRole) : List (String × Json) :=
  [("metadata", r.metadata.write)] ++
  optionalField "aggregationRule" AggregationRule.write r.aggregationRule ++
  listField "rules" PolicyRule.write r.rules

theorem get?_fields (r : ClusterRole) (k : String) : r.fields.get? k = lookup k r.entries := by
  have keys : (r.entries.map (·.1)).Sublist ["metadata", "aggregationRule", "rules"] := by
    simp only [entries, List.map_append]
    exact ((List.Sublist.refl _).append (keys_optionalField _ _ _)).append (keys_listField _ _ _)
  exact get?_ofList (List.Nodup.sublist keys (by decide)) k

theorem toObject_eq {r : ClusterRole} (apart : r.metadata.Apart) :
    Resource.toObject r = .ok (Resource.object r) := by
  refine Resource.toObject_eq ?_ apart
  show r.fields.get? "metadata" = _
  simp [get?_fields, entries, lookup]
  rfl

theorem toResource_object (r : ClusterRole) {m : Metadata} (apart : m.Apart) :
    ({ Resource.object r with metadata := m } : Object).toResource ClusterRole =
      .ok { r with metadata := m } := by
  let o := Resource.objectWith r m
  have found : ∀ k, o.written.get? k =
      if k ∈ Object.record.names then lookup k o.fields else lookup k r.entries := fun k => by
    rw [← r.get?_fields]
    exact Resource.get?_objectWith r m k
  have metadata : (Field.required "metadata" Metadata.read).ofObject o.written.entries = .ok m :=
    Field.required_of_some m.write (found _) (Metadata.read_write apart)
  have aggregationRule : (Field.optional "aggregationRule" AggregationRule.read).ofObject
      o.written.entries = .ok r.aggregationRule := by
    refine Field.optional_of_optionalField AggregationRule.write ((found _).trans ?_)
      AggregationRule.read_write (fun _ => by simp [AggregationRule.write, Json.ofFields])
    rw [if_neg (by decide)]
    simp [entries, lookup, lookup_append, lookup_listField]
  have rules : (Field.withDefault "rules" (list PolicyRule.read) []).ofObject o.written.entries =
      .ok r.rules := by
    refine Field.list_of_listField PolicyRule.write ((found _).trans ?_) fun p _ => p.read_write
    rw [if_neg (by decide)]
    simp [entries, lookup, lookup_append, lookup_optionalField]
  have reads : ClusterRole.read o.write = .ok { r with metadata := m } :=
    ((((Record.Reads.make ClusterRole.mk).field metadata).field aggregationRule).field
      rules).read "ClusterRole"
  exact congrArg (Except.mapError ConversionError.serialization) reads

end ClusterRole

end PackageInstall
