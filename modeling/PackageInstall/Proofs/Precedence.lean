import PackageInstall.Proofs.Decoding
import PackageInstall.Proofs.Layers

namespace PackageInstall.Settings

open Setting
open KeyMap (lookup)
open Reading (bind_eq_ok_iff)
open SettingsFile (Format)

variable {table base : List (String × Setting)}

structure Converted (value : Slot → Setting) (s : Settings) : Prop where
  executorImage : (value .executorImage).asText "executor_image" = .ok s.executorImage
  rolePrefix : (value .rolePrefix).asText "role_prefix" = .ok s.rolePrefix
  level : (value .level).asText "logging.level" = .ok s.logging.level
  json : (value .json).asTruth "logging.json" = .ok s.logging.json

theorem ofSetting_eq_ok_iff {origin : Option Origin} {inner : List (String × Setting)}
    {level json : Setting} (level_stands : lookup "level" inner = some level)
    (json_stands : lookup "json" inner = some json) (l : Logging) :
    Logging.ofSetting (.table origin inner) = .ok l ↔
      level.asText "logging.level" = .ok l.level ∧ json.asTruth "logging.json" = .ok l.json := by
  rw [Logging.ofSetting, level_stands, json_stands, orDefault_some, orDefault_some]
  simp only [bind_eq_ok_iff]
  constructor
  · rintro ⟨j, isJson, t, isText, same⟩
    cases same
    exact ⟨isText, isJson⟩
  · rintro ⟨isText, isJson⟩
    exact ⟨_, isJson, _, isText, rfl⟩

theorem ofEntries_eq_ok_iff {entries : List (String × Setting)} (tabled : Tabled entries)
    {value : Slot → Setting} (stands : ∀ k : Slot, k.standing entries = some (value k))
    (s : Settings) : ofEntries entries = .ok s ↔ Converted value s := by
  obtain ⟨origin, inner, logging⟩ := tabled
  have image : lookup "executor_image" entries = some (value .executorImage) :=
    stands .executorImage
  have rolePrefix : lookup "role_prefix" entries = some (value .rolePrefix) := stands .rolePrefix
  have level := stands .level
  have json := stands .json
  simp only [Slot.standing, logging, asTable] at level json
  rw [ofEntries, image, rolePrefix, logging, orDefault_some, orDefault_some, orDefault_some]
  simp only [bind_eq_ok_iff, ofSetting_eq_ok_iff level json]
  constructor
  · rintro ⟨t, isImage, l, ⟨isLevel, isJson⟩, p, isPrefix, same⟩
    cases same
    exact ⟨isImage, isPrefix, isLevel, isJson⟩
  · rintro ⟨isImage, isPrefix, isLevel, isJson⟩
    exact ⟨_, isImage, _, ⟨isLevel, isJson⟩, _, isPrefix, rfl⟩

/-- Values that are the same, or tables both, so that they are converted alike. -/
def Alike (a b : Setting) : Prop :=
  a = b ∨
    (∃ origin entries, a = .table origin entries) ∧ ∃ origin entries, b = .table origin entries

theorem Alike.asText_iff {a b : Setting} (alike : Alike a b) (key t : String) :
    a.asText key = .ok t ↔ b.asText key = .ok t := by
  rcases alike with rfl | ⟨⟨_, _, rfl⟩, _, _, rfl⟩
  · rfl
  · simp [asText]

theorem Alike.asTruth_iff {a b : Setting} (alike : Alike a b) (key : String) (t : Bool) :
    a.asTruth key = .ok t ↔ b.asTruth key = .ok t := by
  rcases alike with rfl | ⟨⟨_, _, rfl⟩, _, _, rfl⟩
  · rfl
  · simp [asTruth]

theorem converted_congr {a b : Slot → Setting} (alike : ∀ k, Alike (a k) (b k)) (s : Settings) :
    Converted a s ↔ Converted b s := by
  constructor
  · rintro ⟨image, rolePrefix, level, json⟩
    exact ⟨((alike _).asText_iff _ _).1 image, ((alike _).asText_iff _ _).1 rolePrefix,
      ((alike _).asText_iff _ _).1 level, ((alike _).asTruth_iff _ _).1 json⟩
  · rintro ⟨image, rolePrefix, level, json⟩
    exact ⟨((alike _).asText_iff _ _).2 image, ((alike _).asText_iff _ _).2 rolePrefix,
      ((alike _).asText_iff _ _).2 level, ((alike _).asTruth_iff _ _).2 json⟩

def isBlank : Setting → Bool
  | .table _ [] => true
  | _ => false

theorem layOver_alike (value : Setting) (below : Option Setting) (isSolid : isBlank value = false) :
    Alike (value.layOver below) value := by
  rcases value with ⟨origin, a⟩ | ⟨origin, items⟩ | ⟨origin, entries⟩
  · exact .inl rfl
  · exact .inl rfl
  · cases entries with
    | nil => cases isSolid
    | cons e rest =>
      -- It is a table with more entries perhaps, and no setting takes a table.
      exact .inr ⟨⟨_, _, rfl⟩, _, _, rfl⟩

theorem layOver_blank {value : Setting} (blank : isBlank value = true) (below : Setting) :
    value.layOver (some below) = below := by
  rcases value with _ | _ | ⟨origin, entries⟩
  · cases blank
  · cases blank
  · cases entries with
    | nil => rfl
    | cons e rest => cases blank

namespace Slot

def inTable (table : List (String × Setting)) (k : Slot) : Option Setting :=
  (k.writtenIn table).filter fun value => !isBlank value

/-- The value for a place: from the environment if it is set there, else from the table if it is set
there, else as it is by default. -/
def chosen (environment : List (String × String)) (table : List (String × Setting)) (k : Slot) :
    Setting :=
  ((k.inEnvironment environment).or (k.inTable table)).getD (k.valueIn default)

end Slot

theorem lowered_layer (s : Settings) : lowered s.layer = s.layer := by
  have image : Text.lower "executor_image" = "executor_image" := by decide +kernel
  have logging : Text.lower "logging" = "logging" := by decide +kernel
  have rolePrefix : Text.lower "role_prefix" = "role_prefix" := by decide +kernel
  simp [lowered, layer, image, logging, rolePrefix]

theorem lowered_entries (l : Logging) : lowered l.entries = l.entries := by
  have json : Text.lower "json" = "json" := by decide +kernel
  have level : Text.lower "level" = "level" := by decide +kernel
  simp [lowered, Logging.entries, json, level]

theorem plain_layer (s : Settings) : Plain s.layer where
  pathless := by
    intro e member
    simp only [layer, List.mem_cons, List.not_mem_nil, or_false] at member
    rcases member with rfl | rfl | rfl <;> simp
  distinct := by
    rw [lowered_layer]
    simp [layer]
  logging value written := by
    rw [lowered_layer] at written
    have own : lookup "logging" s.layer = some (.table none s.logging.entries) := rfl
    rw [own] at written
    cases written
    refine ⟨none, _, rfl, ?_⟩
    rw [lowered_entries]
    simp [Logging.entries]

theorem writtenIn_layer (s : Settings) (k : Slot) : k.writtenIn s.layer = some (k.valueIn s) := by
  cases k with
  | executorImage => rw [Slot.writtenIn, lowered_layer]; rfl
  | rolePrefix => rw [Slot.writtenIn, lowered_layer]; rfl
  | level =>
    have own : lookup "logging" s.layer = some (.table none s.logging.entries) := rfl
    rw [Slot.writtenIn, lowered_layer, own, asTable, lowered_entries]
    rfl
  | json =>
    have own : lookup "logging" s.layer = some (.table none s.logging.entries) := rfl
    rw [Slot.writtenIn, lowered_layer, own, asTable, lowered_entries]
    rfl

theorem standing_layer (s : Settings) (k : Slot) :
    k.standing (lay [] s.layer) = some (k.valueIn s) := by
  rw [(plain_layer s).standing_lay .nil, writtenIn_layer]
  cases k <;> rfl

theorem tabled_layer (s : Settings) : Tabled (lay [] s.layer) := by
  unfold Tabled
  rw [(plain_layer s).lookup_lay .nil, lowered_layer]
  exact ⟨none, _, rfl⟩

def Slot.laid (environment : List (String × String)) (table : List (String × Setting)) (k : Slot) :
    Setting :=
  (k.inEnvironment environment).getD <|
    match k.writtenIn table with
    | some value => value.layOver (some (k.valueIn default))
    | none => k.valueIn default

theorem standing_layAll {environment : List (String × String)} (known : Known environment)
    {upper : Layer} (order : upper.Perm (ofEnvironment environment))
    (plain : Plain table) :
    Tabled (layAll [default.layer, table, upper]) ∧
      ∀ k : Slot, k.standing (layAll [default.layer, table, upper]) =
        some (k.laid environment table) := by
  have start : Settled (lay [] default.layer) := Settled.nil.lay _
  obtain ⟨tabled, stands⟩ := standing_variables known order (start.lay table)
    (plain.tabled_lay start (tabled_layer default))
  refine ⟨tabled, fun k => ?_⟩
  have below := plain.standing_lay start k
  rw [standing_layer] at below
  show k.standing (lay (lay (lay [] default.layer) table) upper) = _
  rw [stands, below, Slot.laid]
  cases k.inEnvironment environment <;> cases k.writtenIn table <;> rfl

theorem laid_alike (environment : List (String × String)) (table : List (String × Setting))
    (k : Slot) : Alike (k.laid environment table) (k.chosen environment table) := by
  unfold Slot.laid Slot.chosen Slot.inTable
  cases k.inEnvironment environment with
  | some value => exact .inl rfl
  | none =>
    cases k.writtenIn table with
    | none => exact .inl rfl
    | some value =>
      cases blank : isBlank value with
      | true => exact .inl (by simp [Option.filter_some, blank, layOver_blank])
      | false => simpa [Option.filter_some, blank] using layOver_alike value _ blank

section

variable {file : Option SettingsFile} {path : Option String} {environment : List (String × String)}

theorem ofLayers_eq (known : Known environment) {upper : Layer}
    (order : upper.Perm (ofEnvironment environment)) (plain : Plain table) :
    ofLayers [default.layer, table, upper] =
      ofEntries (layAll [default.layer, table, upper]) := by
  have inside : layStrays [] [default.layer, table, upper].flatten = false := by
    refine layStrays_of_forward ?_ []
    simp only [List.mem_flatten, List.mem_cons, List.not_mem_nil, or_false]
    rintro e ⟨layer, rfl | rfl | rfl, member⟩
    · exact (plain_layer default).forward e member
    · exact plain.forward e member
    · exact known.forward e (order.mem_iff.1 member)
  rw [ofLayers, inside]
  rfl

theorem load_eq (read : ofFile file path = .ok table) (plain : Plain table)
    (known : Known environment) :
    load file path environment =
      ofEntries (layAll [default.layer, table, ofEnvironment environment]) := by
  rw [load, read]
  exact ofLayers_eq known (.refl _) plain

theorem load_eq_ok_iff (read : ofFile file path = .ok table) (plain : Plain table)
    (known : Known environment) (s : Settings) :
    load file path environment = .ok s ↔ Converted (Slot.chosen environment table) s := by
  obtain ⟨tabled, stands⟩ := standing_layAll known (.refl _) plain
  rw [load_eq read plain known, ofEntries_eq_ok_iff tabled stands,
    converted_congr (laid_alike environment table)]

/-- Values that are the same, or tables of one origin, which are found faulty alike. -/
def Matching (a b : Setting) : Prop :=
  a = b ∨ ∃ origin entries entries', a = .table origin entries ∧ b = .table origin entries'

theorem orDefault_asText {a b : Option Setting} (matching : Option.Rel Matching a b)
    (key absent : String) : orDefault (asText key) absent a = orDefault (asText key) absent b := by
  cases matching with
  | none => rfl
  | some related => obtain rfl | ⟨_, _, _, rfl, rfl⟩ := related <;> rfl

theorem orDefault_asTruth {a b : Option Setting} (matching : Option.Rel Matching a b)
    (key : String) (absent : Bool) :
    orDefault (asTruth key) absent a = orDefault (asTruth key) absent b := by
  cases matching with
  | none => rfl
  | some related => obtain rfl | ⟨_, _, _, rfl, rfl⟩ := related <;> rfl

theorem ofEntries_congr {entries entries' : List (String × Setting)} (tabled : Tabled entries)
    (tabled' : Tabled entries')
    (matching : ∀ k : Slot, Option.Rel Matching (k.standing entries) (k.standing entries')) :
    ofEntries entries = ofEntries entries' := by
  obtain ⟨origin, inner, logging⟩ := tabled
  obtain ⟨origin', inner', logging'⟩ := tabled'
  have image : Option.Rel Matching (lookup "executor_image" entries)
      (lookup "executor_image" entries') := matching .executorImage
  have rolePrefix : Option.Rel Matching (lookup "role_prefix" entries)
      (lookup "role_prefix" entries') := matching .rolePrefix
  have level := matching .level
  have json := matching .json
  simp only [Slot.standing, logging, logging', asTable] at level json
  have sameLogging : Logging.ofSetting (.table origin inner) =
      Logging.ofSetting (.table origin' inner') := by
    rw [Logging.ofSetting, Logging.ofSetting, orDefault_asTruth json, orDefault_asText level]
  rw [ofEntries, ofEntries, orDefault_asText image, orDefault_asText rolePrefix, logging, logging',
    orDefault_some, orDefault_some, sameLogging]

theorem Converted.valueIn_eq {value value' : Slot → Setting} {s s' : Settings}
    (converted : Converted value s) (converted' : Converted value' s') {k : Slot}
    (same : value k = value' k) : k.valueIn s = k.valueIn s' := by
  cases k with
  | executorImage =>
    have alike := converted.executorImage.symm.trans (same ▸ converted'.executorImage)
    rw [Slot.valueIn, Slot.valueIn, Except.ok.inj alike]
  | rolePrefix =>
    have alike := converted.rolePrefix.symm.trans (same ▸ converted'.rolePrefix)
    rw [Slot.valueIn, Slot.valueIn, Except.ok.inj alike]
  | level =>
    have alike := converted.level.symm.trans (same ▸ converted'.level)
    rw [Slot.valueIn, Slot.valueIn, Except.ok.inj alike]
  | json =>
    have alike := converted.json.symm.trans (same ▸ converted'.json)
    rw [Slot.valueIn, Slot.valueIn, Except.ok.inj alike]

theorem Slot.writtenIn_of_unknown (front back : List (String × Setting)) {e : String × Setting}
    (unknown : Text.lower e.1 ∉ ["executor_image", "role_prefix", "logging"]) (k : Slot) :
    k.writtenIn (front ++ e :: back) = k.writtenIn (front ++ back) := by
  have same : ∀ name ∈ ["executor_image", "role_prefix", "logging"],
      lookup name (lowered (front ++ e :: back)) = lookup name (lowered (front ++ back)) := by
    intro name member
    have differ : name ≠ Text.lower e.1 := fun here => unknown (here ▸ member)
    simp only [lowered, List.map_append, List.map_cons, KeyMap.lookup_append, lookup, differ,
      if_false]
  cases k <;> simp only [Slot.writtenIn, same, List.mem_cons, true_or, or_true]

structure FieldByField (file : Option SettingsFile) (path : Option String)
    (environment : List (String × String)) (table : List (String × Setting)) : Prop where
  /-- They are loaded where every chosen value can be converted, and are what it is converted to. -/
  chosen : ∀ s, load file path environment = .ok s ↔ Converted (Slot.chosen environment table) s
  /-- Each depends only on what is set in its own place. -/
  apart : ∀ (k : Slot) (file' path' table' environment' s s'), ofFile file' path' = .ok table' →
    Plain table' → Known environment' →
    k.inEnvironment environment' = k.inEnvironment environment →
    k.inTable table' = k.inTable table →
    load file path environment = .ok s → load file' path' environment' = .ok s' →
    k.valueIn s' = k.valueIn s
  /-- Files that say the same for each are loaded alike, also where that fails. -/
  alike : ∀ file' path' table', ofFile file' path' = .ok table' → Plain table' →
    (∀ k : Slot, k.writtenIn table' = k.writtenIn table) →
    load file' path' environment = load file path environment
  /-- An entry of another name changes nothing. -/
  unknown : ∀ (file' path' front back) (e : String × Setting), table = front ++ back →
    ofFile file' path' = .ok (front ++ e :: back) → Plain (front ++ e :: back) →
    Text.lower e.1 ∉ ["executor_image", "role_prefix", "logging"] →
    load file' path' environment = load file path environment

theorem load_congr (read : ofFile file path = .ok table) (plain : Plain table)
    (known : Known environment) {file' : Option SettingsFile} {path' : Option String}
    {table' : List (String × Setting)} (read' : ofFile file' path' = .ok table')
    (plain' : Plain table') (same : ∀ k : Slot, k.writtenIn table' = k.writtenIn table) :
    load file' path' environment = load file path environment := by
  obtain ⟨tabled, stands⟩ := standing_layAll known (.refl _) plain
  obtain ⟨tabled', stands'⟩ := standing_layAll known (.refl _) plain'
  rw [load_eq read plain known, load_eq read' plain' known]
  apply ofEntries_congr tabled' tabled
  intro k
  rw [stands, stands', Slot.laid, Slot.laid, same]
  exact .some (.inl rfl)

theorem layered_field_by_field (read : ofFile file path = .ok table) (plain : Plain table)
    (known : Known environment) : FieldByField file path environment table where
  chosen := load_eq_ok_iff read plain known
  apart k file' path' table' environment' s s' read' plain' known' sameVariable sameEntry loads
      loads' := by
    have converted := (load_eq_ok_iff read plain known s).1 loads
    have converted' := (load_eq_ok_iff read' plain' known' s').1 loads'
    apply converted'.valueIn_eq converted
    rw [Slot.chosen, Slot.chosen, sameVariable, sameEntry]
  alike file' path' table' read' plain' same := load_congr read plain known read' plain' same
  unknown file' path' front back e parts read' plain' other := by
    apply load_congr read plain known read' plain'
    intro k
    rw [parts, k.writtenIn_of_unknown front back other]

end

theorem splitOn_sample : "c.json".splitOn "/" = ["c.json"] := by
  rw [String.splitOn, if_neg (by decide)]
  iterate 6
    rw [String.splitOnAux, if_neg (by decide), if_neg (by decide)]
  rw [String.splitOnAux, if_pos (by decide)]
  decide

theorem ofFile_json {content : String} {fields : List (String × Json)}
    (reads : Format.json.read content = some (.object fields)) :
    ofFile (some ⟨"c.json", content⟩) (some "c.json") = .ok (ofFields (.file "c.json") fields) := by
  have parts : SettingsFile.parts "c.json" = ["c.json"] := by
    rw [SettingsFile.parts, splitOn_sample]
    decide
  have namesFile : SettingsFile.namesFile "c.json" = true := by
    rw [SettingsFile.namesFile, splitOn_sample]
    decide
  have relative : SettingsFile.isAbsolute "c.json" = false := by
    rw [SettingsFile.isAbsolute, String.startsWith_string_eq_false_iff]
    decide
  have format : SettingsFile.formatAt ⟨"c.json", content⟩ "c.json" = some .json := by
    have ending : SettingsFile.formatOf "c.json" = some .json := by decide +kernel
    simp [SettingsFile.formatAt, relative, namesFile, parts, ending]
  have shown : SettingsFile.shownName ⟨"c.json", content⟩ = "c.json" := by
    simp [SettingsFile.shownName, parts]
  simp only [ofFile, format, SettingsFile.layer, reads, shown]

def layeredFile : SettingsFile :=
  ⟨"c.json",
    "\x7b\"logging\": \x7b\"level\": \"debug\"\x7d, \"Role_Prefix\": 7, \"extra\": [1]\x7d"⟩

def layeredTable : List (String × Setting) :=
  [("Role_Prefix", .atom (some (.file "c.json")) (.int 7)),
    ("extra", .list (some (.file "c.json")) [.atom (some (.file "c.json")) (.int 1)]),
    ("logging", .table (some (.file "c.json"))
      [("level", .atom (some (.file "c.json")) (.text "debug"))])]

def layeredVariables : List (String × String) := [("STACKS_LOGGING__JSON", "yes")]

theorem ofFile_layeredFile : ofFile (some layeredFile) (some "c.json") = .ok layeredTable := by
  have reads : Format.json.read layeredFile.content =
      some (.object [("Role_Prefix", .int 7), ("extra", .array [.int 1]),
        ("logging", .object [("level", .text "debug")])]) := by decide +kernel
  exact ofFile_json reads

theorem lowered_layeredTable : lowered layeredTable =
    [("role_prefix", .atom (some (.file "c.json")) (.int 7)),
      ("extra", .list (some (.file "c.json")) [.atom (some (.file "c.json")) (.int 1)]),
      ("logging", .table (some (.file "c.json"))
        [("level", .atom (some (.file "c.json")) (.text "debug"))])] := rfl

theorem plain_layeredTable : Plain layeredTable where
  pathless := by simp [layeredTable]
  distinct := by simp [lowered_layeredTable]
  logging value written := by
    simp only [lowered_layeredTable] at written
    cases written
    exact ⟨_, _, rfl, by decide +kernel⟩

theorem known_layeredVariables : Known layeredVariables where
  distinct := by decide
  known := by
    intro e member
    rw [layeredVariables, List.mem_singleton] at member
    exact .inl ⟨.json, congrArg Prod.fst member⟩

theorem layered_field_by_field_sample :
    FieldByField (some layeredFile) (some "c.json") layeredVariables layeredTable ∧
      load (some layeredFile) (some "c.json") layeredVariables =
        .ok ⟨"crossplane/crossplane:latest", "7", ⟨"debug", true⟩⟩ := by
  have fields := layered_field_by_field ofFile_layeredFile plain_layeredTable known_layeredVariables
  refine ⟨fields, (fields.chosen _).2 ⟨?_, ?_, ?_, ?_⟩⟩
  · rfl
  · rfl
  · rfl
  · rfl

def blankFile : SettingsFile := ⟨"c.json", "\x7b\"executor_image\": \x7b\x7d\x7d"⟩

def blankTable : List (String × Setting) :=
  [("executor_image", .table (some (.file "c.json")) [])]

theorem ofFile_blankFile : ofFile (some blankFile) (some "c.json") = .ok blankTable := by
  have reads : Format.json.read blankFile.content =
      some (.object [("executor_image", .object [])]) := by decide +kernel
  exact ofFile_json reads

theorem plain_blankTable : Plain blankTable where
  pathless := by simp [blankTable]
  distinct := by decide +kernel
  logging value written := by
    have unset : lookup "logging" (lowered blankTable) = none := rfl
    rw [unset] at written
    cases written

/-- A file whose value for a setting is a table without entries, which is no text. The settings are
loaded all the same. -/
theorem blank_table_keeps_default :
    ofFile (some blankFile) (some "c.json") = .ok blankTable ∧ Plain blankTable ∧ Known [] ∧
      Slot.executorImage.writtenIn blankTable = some (.table (some (.file "c.json")) []) ∧
      load (some blankFile) (some "c.json") [] = .ok default ∧
      ∀ s, ¬Converted (fun k =>
        ((k.inEnvironment []).or (k.writtenIn blankTable)).getD (k.valueIn default)) s := by
  have known : Known [] := ⟨.nil, by simp⟩
  refine ⟨ofFile_blankFile, plain_blankTable, known, rfl, ?_, ?_⟩
  · rw [load_eq_ok_iff ofFile_blankFile plain_blankTable known]
    exact ⟨rfl, rfl, rfl, rfl⟩
  · -- The table itself would have to be a text.
    intro s converted
    cases converted.executorImage

end PackageInstall.Settings
