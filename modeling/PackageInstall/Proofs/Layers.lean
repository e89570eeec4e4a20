import PackageInstall.Proofs.Assignment

namespace PackageInstall.Settings

open Setting
open KeyMap (lookup place)

theorem orDefault_some {α : Type} (read : Setting → Except SettingsFault α) (absent : α)
    (value : Setting) : orDefault read absent (some value) = read value := rfl

inductive Slot where
  | executorImage
  | rolePrefix
  | level
  | json
  deriving DecidableEq

def lowered (entries : List (String × Setting)) : List (String × Setting) :=
  entries.map fun e => (Text.lower e.1, e.2)

namespace Slot

def variableName : Slot → String
  | executorImage => "STACKS_EXECUTOR_IMAGE"
  | rolePrefix => "STACKS_ROLE_PREFIX"
  | level => "STACKS_LOGGING__LEVEL"
  | json => "STACKS_LOGGING__JSON"

def pathText : Slot → String
  | executorImage => "executor_image"
  | rolePrefix => "role_prefix"
  | level => "logging.level"
  | json => "logging.json"

def path : Slot → Path
  | executorImage => ⟨"executor_image", []⟩
  | rolePrefix => ⟨"role_prefix", []⟩
  | level => ⟨"logging", [.entry "level"]⟩
  | json => ⟨"logging", [.entry "json"]⟩

def valueIn (s : Settings) : Slot → Setting
  | executorImage => atom none (.text s.executorImage)
  | rolePrefix => atom none (.text s.rolePrefix)
  | level => atom none (.text s.logging.level)
  | json => atom none (.bool s.logging.json)

def standing (entries : List (String × Setting)) : Slot → Option Setting
  | executorImage => lookup "executor_image" entries
  | rolePrefix => lookup "role_prefix" entries
  | level => lookup "level" (asTable (lookup "logging" entries)).2
  | json => lookup "json" (asTable (lookup "logging" entries)).2

def writtenIn (table : List (String × Setting)) : Slot → Option Setting
  | executorImage => lookup "executor_image" (lowered table)
  | rolePrefix => lookup "role_prefix" (lowered table)
  | level => lookup "level" (lowered (asTable (lookup "logging" (lowered table))).2)
  | json => lookup "json" (lowered (asTable (lookup "logging" (lowered table))).2)

def inEnvironment (environment : List (String × String)) (k : Slot) : Option Setting :=
  (lookup k.variableName environment).map fun v => atom (some .environment) (.ofVariable v)

theorem pathText_inj {k k' : Slot} : k.pathText = k'.pathText ↔ k = k' := by
  cases k <;> cases k' <;> decide

theorem pathOfVariable_eq (k : Slot) : pathOfVariable k.variableName = some k.pathText := by
  cases k <;> decide +kernel

theorem ofText_pathText (k : Slot) : Path.ofText k.pathText = k.path := by
  cases k <;> decide +kernel

theorem lower_first (k : Slot) : Text.lower k.path.first = k.path.first := by
  cases k <;> decide +kernel

end Slot

theorem lookup_entriesOver {table : List (String × Setting)}
    (distinct : ((lowered table).map (·.1)).Nodup) {base : List (String × Setting)}
    (sorted : Sorted base) (name : String) :
    lookup name (entriesOver table base) =
      match lookup name (lowered table) with
      | some value => some (value.layOver (lookup name base))
      | none => lookup name base := by
  induction table generalizing base with
  | nil => rfl
  | cons e rest ih =>
    obtain ⟨absent, distinct⟩ := List.nodup_cons.1 distinct
    have step : entriesOver (e :: rest) base = entriesOver rest
      (place (Text.lower e.1) (e.2.layOver (lookup (Text.lower e.1) base)) base) := rfl
    have first : lowered (e :: rest) = (Text.lower e.1, e.2) :: lowered rest := rfl
    rw [step, ih distinct (KeyMap.ordered_place sorted), KeyMap.lookup_place _ _ _ _ sorted, first,
      lookup]
    -- No entry after the first has its name, so nothing is laid over it.
    by_cases here : name = Text.lower e.1
    · have later : lookup name (lowered rest) = none :=
        KeyMap.lookup_eq_none_iff.2 (here ▸ absent)
      simp [here, here ▸ later]
    · simp [here]

theorem asTable_layOver_table (origin : Option Origin) (entries : List (String × Setting))
    (below : Option Setting) :
    (asTable (some ((table origin entries).layOver below))).2 =
      entriesOver entries (asTable below).2 := by
  cases entries with
  | nil => cases below <;> rfl
  | cons e rest => rfl

/-- A table without paths in which no name comes twice, with no more for logging than a table. -/
structure Plain (table : List (String × Setting)) : Prop where
  pathless : ∀ e ∈ table, '.' ∉ e.1.toList ∧ '[' ∉ e.1.toList
  distinct : ((lowered table).map (·.1)).Nodup
  logging : ∀ value, lookup "logging" (lowered table) = some value →
    ∃ origin entries, value = .table origin entries ∧ ((lowered entries).map (·.1)).Nodup

theorem lay_pathless {table : List (String × Setting)}
    (pathless : ∀ e ∈ table, '.' ∉ e.1.toList ∧ '[' ∉ e.1.toList)
    (base : List (String × Setting)) : lay base table = entriesOver table base := by
  induction table generalizing base with
  | nil => rfl
  | cons e rest ih =>
    obtain ⟨noPoint, noBracket⟩ := pathless e List.mem_cons_self
    have step : entriesOver (e :: rest) base = entriesOver rest
      (place (Text.lower e.1) (e.2.layOver (lookup (Text.lower e.1) base)) base) := rfl
    rw [lay_cons, ih fun e' member => pathless e' (List.mem_cons_of_mem _ member), step, assign,
      Path.ofText_plain noPoint noBracket]
    rfl

variable {table base : List (String × Setting)}

theorem Plain.forward (plain : Plain table) : ∀ e ∈ table, (Path.ofText e.1).Forward := by
  intro e member n step
  obtain ⟨noPoint, noBracket⟩ := plain.pathless e member
  rw [Path.ofText_plain noPoint noBracket] at step
  cases step

theorem Plain.lookup_lay (plain : Plain table) (settled : Settled base) (name : String) :
    lookup name (lay base table) =
      match lookup name (lowered table) with
      | some value => some (value.layOver (lookup name base))
      | none => lookup name base := by
  rw [lay_pathless plain.pathless, lookup_entriesOver plain.distinct settled.sorted]

theorem Plain.lookup_logging (plain : Plain table) (settled : Settled base) (name : String) :
    lookup name (asTable (lookup "logging" (lay base table))).2 =
      match lookup name (lowered (asTable (lookup "logging" (lowered table))).2) with
      | some value => some (value.layOver (lookup name (asTable (lookup "logging" base)).2))
      | none => lookup name (asTable (lookup "logging" base)).2 := by
  rw [plain.lookup_lay settled]
  cases written : lookup "logging" (lowered table) with
  | none => rfl
  | some value =>
    obtain ⟨origin, entries, rfl, distinct⟩ := plain.logging value written
    simp only [asTable_layOver_table]
    exact lookup_entriesOver distinct (settled.inner "logging") name

theorem Plain.standing_lay (plain : Plain table) (settled : Settled base) (k : Slot) :
    k.standing (lay base table) =
      match k.writtenIn table with
      | some value => some (value.layOver (k.standing base))
      | none => k.standing base := by
  cases k with
  | executorImage => exact plain.lookup_lay settled _
  | rolePrefix => exact plain.lookup_lay settled _
  | level => exact plain.lookup_logging settled _
  | json => exact plain.lookup_logging settled _

def Tabled (entries : List (String × Setting)) : Prop :=
  ∃ origin inner, lookup "logging" entries = some (.table origin inner)

theorem Plain.tabled_lay (plain : Plain table) (settled : Settled base) (tabled : Tabled base) :
    Tabled (lay base table) := by
  obtain ⟨origin, inner, below⟩ := tabled
  unfold Tabled
  rw [plain.lookup_lay settled]
  cases written : lookup "logging" (lowered table) with
  | none => exact ⟨origin, inner, below⟩
  | some value =>
    obtain ⟨origin', entries, rfl, -⟩ := plain.logging value written
    -- A table without entries leaves the one that is there.
    cases entries with
    | nil => exact ⟨origin, inner, by simp [below, layOver]⟩
    | cons e rest => exact ⟨_, _, rfl⟩

/-- Whether a variable sets nothing, or something that is none of the settings, without counting
from the end of a list. -/
def Elsewhere (name : String) : Prop :=
  ∀ path, pathOfVariable name = some path →
    Text.lower (Path.ofText path).first ∉ ["executor_image", "role_prefix", "logging"] ∧
      (Path.ofText path).Forward

theorem Slot.inside (k : Slot) :
    Text.lower (Path.ofText k.pathText).first ∈ ["executor_image", "role_prefix", "logging"] := by
  rw [k.ofText_pathText, k.lower_first]
  cases k <;> simp [Slot.path]

theorem Slot.forward (k : Slot) : k.path.Forward := by
  intro n member
  cases k <;> simp [Slot.path] at member

theorem lookup_assign_slot (sorted : Sorted base) (k : Slot) (value : Setting) (name : String) :
    lookup name (assign base k.pathText value) =
      if name = k.path.first then some (putAt value k.path.steps (lookup k.path.first base))
      else lookup name base := by
  rw [lookup_assign sorted, k.ofText_pathText, k.lower_first]

theorem asTable_putAt (value : Setting) {name : String} (small : Text.lower name = name)
    (below : Option Setting) :
    asTable (some (putAt value [.entry name] below)) =
      ((asTable below).1, place name (value.layOver (lookup name (asTable below).2))
        (asTable below).2) := by
  rw [putAt_entry, small]
  rfl

theorem standing_assign (settled : Settled base) (k k' : Slot) (origin : Option Origin) (a : Atom) :
    k'.standing (assign base k.pathText (.atom origin a)) =
      if k' = k then some (.atom origin a) else k'.standing base := by
  have top : ∀ below, putAt (.atom origin a) [] below = .atom origin a := fun _ => rfl
  have lays : ∀ below, (Setting.atom origin a).layOver below = .atom origin a := fun _ => rfl
  have level : Text.lower "level" = "level" := by decide +kernel
  have json : Text.lower "json" = "json" := by decide +kernel
  have inner : ∀ name name' (v : Setting),
      lookup name (place name' v (asTable (lookup "logging" base)).2) =
        if name = name' then some v else lookup name (asTable (lookup "logging" base)).2 :=
    fun name name' v => KeyMap.lookup_place name' name v _ (settled.inner "logging")
  cases k <;> cases k' <;>
    simp [Slot.standing, lookup_assign_slot settled.sorted, Slot.path, top, asTable_putAt, level,
      json, inner, lays]

theorem standing_elsewhere (settled : Settled base) {path : String}
    (outside : Text.lower (Path.ofText path).first ∉ ["executor_image", "role_prefix", "logging"])
    (value : Setting) (k : Slot) : k.standing (assign base path value) = k.standing base := by
  obtain ⟨image, rolePrefix, logging⟩ : Text.lower (Path.ofText path).first ≠ "executor_image" ∧
      Text.lower (Path.ofText path).first ≠ "role_prefix" ∧
      Text.lower (Path.ofText path).first ≠ "logging" := by simpa using outside
  cases k <;>
    simp [Slot.standing, lookup_assign settled.sorted, image.symm, rolePrefix.symm, logging.symm]

theorem tabled_assign (settled : Settled base) (tabled : Tabled base) (k : Slot)
    (origin : Option Origin) (a : Atom) : Tabled (assign base k.pathText (.atom origin a)) := by
  unfold Tabled
  cases k <;> simp [lookup_assign_slot settled.sorted, Slot.path, putAt_entry] <;> exact tabled

theorem tabled_elsewhere (settled : Settled base) (tabled : Tabled base) {path : String}
    (outside : Text.lower (Path.ofText path).first ∉ ["executor_image", "role_prefix", "logging"])
    (value : Setting) : Tabled (assign base path value) := by
  have other : "logging" ≠ Text.lower (Path.ofText path).first := by
    rintro same
    simp [← same] at outside
  unfold Tabled
  rw [lookup_assign settled.sorted, if_neg other]
  exact tabled

/-- Variables of which none comes twice, and each sets one of the settings or something else. -/
structure Known (environment : List (String × String)) : Prop where
  distinct : (environment.map (·.1)).Nodup
  known : ∀ e ∈ environment, (∃ k : Slot, e.1 = k.variableName) ∨ Elsewhere e.1

theorem foldl_setVariable (front : List (String × String)) {environment : List (String × String)}
    (distinct : ((front ++ environment).map (·.1)).Nodup) :
    environment.foldl (fun vs v => setVariable vs v.1 v.2) front = front ++ environment := by
  induction environment generalizing front with
  | nil => simp
  | cons e rest ih =>
    have fresh : setVariable front e.1 e.2 = front ++ [e] := by
      have absent : e.1 ∉ front.map (·.1) := by
        simp only [List.map_append, List.map_cons] at distinct
        exact fun there => (List.nodup_append.1 distinct).2.2 e.1 there e.1 List.mem_cons_self rfl
      rw [setVariable, if_neg]
      simpa using absent
    rw [List.foldl_cons, fresh, ih _ (by simpa using distinct)]
    simp

theorem ofEnvironment_eq {environment : List (String × String)}
    (distinct : (environment.map (·.1)).Nodup) : ofEnvironment environment =
      (KeyMap.ofList (environment.filterMap fun v => ofVariable v.1 v.2)).entries := by
  rw [ofEnvironment, foldl_setVariable [] distinct, List.nil_append]

theorem ofVariable_slot (k : Slot) (v : String) :
    ofVariable k.variableName v =
      some (k.pathText, .atom (some .environment) (.ofVariable v)) := by
  rw [ofVariable, k.pathOfVariable_eq]
  rfl

theorem mem_ofEnvironment {environment : List (String × String)}
    (distinct : (environment.map (·.1)).Nodup) {e : String × Setting}
    (member : e ∈ ofEnvironment environment) : ∃ v ∈ environment, ofVariable v.1 v.2 = some e := by
  rw [ofEnvironment_eq distinct] at member
  exact List.mem_filterMap.1 (KeyMap.mem_of_mem_ofList member)

theorem Known.reverse {environment : List (String × String)} (known : Known environment) :
    Known environment.reverse where
  distinct := ((List.reverse_perm environment).map (·.1)).nodup_iff.2 known.distinct
  known e member := known.known e (List.mem_reverse.1 member)

theorem Known.lookup_path {environment : List (String × String)} (known : Known environment)
    (k : Slot) : lookup k.pathText (environment.filterMap fun v => ofVariable v.1 v.2) =
      k.inEnvironment environment := by
  induction environment with
  | nil => rfl
  | cons e rest ih =>
    have later : Known rest := ⟨known.distinct.of_cons,
      fun e' member => known.known e' (List.mem_cons_of_mem _ member)⟩
    obtain ⟨name, v⟩ := e
    by_cases here : name = k.variableName
    · simp [here, ofVariable_slot, Slot.inEnvironment, lookup]
    · have skipped : k.inEnvironment ((name, v) :: rest) = k.inEnvironment rest := by
        simp [Slot.inEnvironment, lookup, Ne.symm here]
      rw [skipped, ← ih later]
      cases sets : ofVariable name v with
      | none => simp [sets]
      | some e' =>
        -- It sets another setting, or none.
        have other : k.pathText ≠ e'.1 := by
          intro same
          obtain ⟨path, isPath, rfl⟩ := Option.map_eq_some_iff.1 sets
          rcases known.known _ List.mem_cons_self with ⟨k', rfl⟩ | elsewhere
          · rw [k'.pathOfVariable_eq] at isPath
            cases isPath
            exact here (congrArg Slot.variableName (Slot.pathText_inj.1 same).symm)
          · have isSlot : k.pathText = path := same
            exact (elsewhere path isPath).1 (isSlot ▸ k.inside)
        simp [sets, lookup, other]

theorem Known.lookup_ofEnvironment {environment : List (String × String)}
    (known : Known environment) (k : Slot) :
    lookup k.pathText (ofEnvironment environment) = k.inEnvironment environment := by
  have reversed : k.inEnvironment environment.reverse = k.inEnvironment environment := by
    rw [Slot.inEnvironment, Slot.inEnvironment,
      KeyMap.lookup_perm (List.reverse_perm _) known.reverse.distinct]
  rw [ofEnvironment_eq known.distinct, ← reversed, ← known.reverse.lookup_path,
    List.filterMap_reverse]
  exact (KeyMap.get?_insertAll_last _ _ _).trans Option.or_none

theorem Known.forward {environment : List (String × String)} (known : Known environment) :
    ∀ e ∈ ofEnvironment environment, (Path.ofText e.1).Forward := by
  intro e member
  obtain ⟨v, inside, sets⟩ := mem_ofEnvironment known.distinct member
  obtain ⟨path, isPath, rfl⟩ := Option.map_eq_some_iff.1 sets
  rcases known.known v inside with ⟨k, isSlot⟩ | elsewhere
  · rw [isSlot, k.pathOfVariable_eq] at isPath
    cases isPath
    rw [k.ofText_pathText]
    exact k.forward
  · exact (elsewhere path isPath).2

/-- Values without parts, at most one for each setting and the others for none, change in its place
what they are for. Logging stays a table. -/
theorem standing_lay {layer : Layer} (distinct : (layer.map (·.1)).Nodup)
    (known : ∀ e ∈ layer, (∃ (k : Slot) (origin : Option Origin) (a : Atom),
        e = (k.pathText, .atom origin a)) ∨
      Text.lower (Path.ofText e.1).first ∉ ["executor_image", "role_prefix", "logging"])
    (settled : Settled base) (tabled : Tabled base) :
    Tabled (lay base layer) ∧
      ∀ k : Slot, k.standing (lay base layer) = (lookup k.pathText layer).or (k.standing base) := by
  -- What the first value leaves is settled again, with a table for logging.
  induction layer generalizing base with
  | nil => exact ⟨tabled, fun _ => rfl⟩
  | cons e rest ih =>
    obtain ⟨absent, later⟩ := List.nodup_cons.1 distinct
    have known' := fun e' member => known e' (List.mem_cons_of_mem _ member)
    rw [lay_cons]
    rcases known e List.mem_cons_self with ⟨k, origin, a, rfl⟩ | outside
    · obtain ⟨table, stands⟩ := ih later known' (settled.assign k.pathText (.atom origin a))
        (tabled_assign settled tabled k origin a)
      refine ⟨table, fun k' => ?_⟩
      simp only [stands k', standing_assign settled, lookup, Slot.pathText_inj]
      by_cases here : k' = k
      · have unset : lookup k.pathText rest = none := KeyMap.lookup_eq_none_iff.2 absent
        simp [here, unset]
      · simp [here]
    · obtain ⟨table, stands⟩ := ih later known' (settled.assign e.1 e.2)
        (tabled_elsewhere settled tabled outside e.2)
      refine ⟨table, fun k => ?_⟩
      have other : k.pathText ≠ e.1 := fun same => outside (same ▸ k.inside)
      rw [stands, standing_elsewhere settled outside, lookup, if_neg other]

theorem standing_variables {environment : List (String × String)} (known : Known environment)
    {upper : Layer} (order : upper.Perm (ofEnvironment environment))
    (settled : Settled base) (tabled : Tabled base) :
    Tabled (lay base upper) ∧
      ∀ k : Slot, k.standing (lay base upper) =
        (k.inEnvironment environment).or (k.standing base) := by
  have entries : ∀ e ∈ upper, (∃ (k : Slot) (origin : Option Origin) (a : Atom),
        e = (k.pathText, .atom origin a)) ∨
      Text.lower (Path.ofText e.1).first ∉ ["executor_image", "role_prefix", "logging"] := by
    intro e member
    obtain ⟨v, inside, sets⟩ := mem_ofEnvironment known.distinct (order.mem_iff.1 member)
    rcases known.known v inside with ⟨k, isSlot⟩ | elsewhere
    · rw [isSlot, ofVariable_slot] at sets
      exact .inl ⟨k, _, _, (Option.some.inj sets).symm⟩
    · obtain ⟨path, isPath, rfl⟩ := Option.map_eq_some_iff.1 sets
      exact .inr (elsewhere path isPath).1
  have distinct : (upper.map (·.1)).Nodup :=
    (order.map _).nodup_iff.2 (KeyMap.nodup_keys _)
  obtain ⟨table, stands⟩ := standing_lay distinct entries settled tabled
  refine ⟨table, fun k => ?_⟩
  rw [stands, KeyMap.lookup_perm order distinct, known.lookup_ofEnvironment]

end PackageInstall.Settings
