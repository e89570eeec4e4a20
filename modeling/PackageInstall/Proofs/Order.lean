import PackageInstall.Proofs.Precedence

namespace PackageInstall.Settings

open Setting
open KeyMap (lookup)

mutual

/-- A value and the same value with the entries of its tables in another order. -/
inductive Rearranged : Setting → Setting → Prop where
  | same (value : Setting) : Rearranged value value
  | table {origin : Option Origin} {entries entries' : List (String × Setting)}
      (rearranged : RearrangedEntries entries entries') :
      Rearranged (.table origin entries) (.table origin entries')

inductive RearrangedEntries : List (String × Setting) → List (String × Setting) → Prop where
  | nil : RearrangedEntries [] []
  | insert {name : String} {value value' : Setting} {rest front back : List (String × Setting)}
      (first : Rearranged value value') (later : RearrangedEntries rest (front ++ back)) :
      RearrangedEntries ((name, value) :: rest) (front ++ (name, value') :: back)

end

/-- What loading may come to. The tables of a file and the variables are hash maps, so their entries
are laid in any order. -/
inductive MayLoad (file : Option SettingsFile) (path : Option String)
    (environment : List (String × String)) : Except SettingsFault Settings → Prop where
  | unread {fault : SettingsFault} (fails : ofFile file path = .error fault) :
      MayLoad file path environment (.error fault)
  | laid {table table' : List (String × Setting)} {upper : Layer}
      (read : ofFile file path = .ok table) (entries : RearrangedEntries table table')
      (order : upper.Perm (ofEnvironment environment)) :
      MayLoad file path environment (ofLayers [default.layer, table', upper])

variable {entries entries' table table' : List (String × Setting)}

theorem RearrangedEntries.refl : ∀ entries, RearrangedEntries entries entries
  | [] => .nil
  | (name, value) :: rest => @insert name value value rest [] rest (.same value) (refl rest)

theorem mayLoad_load (file : Option SettingsFile) (path : Option String)
    (environment : List (String × String)) :
    MayLoad file path environment (load file path environment) := by
  rw [load]
  cases read : ofFile file path with
  | error fault => exact .unread read
  | ok table => exact .laid read (.refl table) (.refl _)

theorem RearrangedEntries.names (rearranged : RearrangedEntries entries entries') :
    (entries.map (·.1)).Perm (entries'.map (·.1)) := by
  induction entries generalizing entries' with
  | nil =>
    cases rearranged
    exact .refl _
  | cons e rest ih =>
    cases rearranged with
    | @insert name value value' _ front back first later =>
      have middle : (name :: (front ++ back).map (·.1)).Perm
          ((front ++ (name, value') :: back).map (·.1)) := by
        simpa using List.perm_middle.symm
      exact ((ih later).cons name).trans middle

theorem RearrangedEntries.lowered (rearranged : RearrangedEntries entries entries') :
    RearrangedEntries (lowered entries) (lowered entries') := by
  induction entries generalizing entries' with
  | nil =>
    cases rearranged
    exact .nil
  | cons e rest ih =>
    cases rearranged with
    | @insert name value value' _ front back first later =>
      have later' := ih later
      simp only [Settings.lowered, List.map_append, List.map_cons] at later' ⊢
      exact .insert first later'

theorem RearrangedEntries.lookup_rel (rearranged : RearrangedEntries entries entries')
    (distinct : (entries.map (·.1)).Nodup) (name : String) :
    Option.Rel Rearranged (lookup name entries) (lookup name entries') := by
  induction entries generalizing entries' with
  | nil =>
    cases rearranged
    exact .none
  | cons e rest ih =>
    cases rearranged with
    | @insert name' value value' _ front back first later =>
      obtain ⟨absent, distinct⟩ := List.nodup_cons.1 distinct
      rw [later.names.mem_iff, List.map_append, List.mem_append, not_or] at absent
      have rest := ih later distinct
      rw [KeyMap.lookup_append] at rest ⊢
      by_cases here : name = name'
      · obtain rfl := here
        have unset : lookup name front = none := KeyMap.lookup_eq_none_iff.2 absent.1
        simpa [unset, lookup] using Option.Rel.some first
      · simpa [lookup, here] using rest

theorem Plain.logging_cases (plain : Plain table) (rearranged : RearrangedEntries table table') :
    lookup "logging" (lowered table') = lookup "logging" (lowered table) ∨
      ∃ origin inner inner', lookup "logging" (lowered table) = some (.table origin inner) ∧
        lookup "logging" (lowered table') = some (.table origin inner') ∧
        RearrangedEntries inner inner' := by
  have related := rearranged.lowered.lookup_rel plain.distinct "logging"
  generalize lookup "logging" (lowered table) = value at related
  generalize lookup "logging" (lowered table') = value' at related
  cases related with
  | none => exact .inl rfl
  | some related =>
    cases related with
    | same => exact .inl rfl
    | table inner => exact .inr ⟨_, _, _, rfl, rfl, inner⟩

theorem Plain.rearranged (plain : Plain table) (rearranged : RearrangedEntries table table') :
    Plain table' where
  pathless e member := by
    obtain ⟨e', inside, same⟩ :=
      List.mem_map.1 (rearranged.names.mem_iff.2 (List.mem_map_of_mem member))
    exact same ▸ plain.pathless e' inside
  distinct := rearranged.lowered.names.nodup_iff.1 plain.distinct
  logging value written := by
    rcases plain.logging_cases rearranged with same | ⟨origin, inner, inner', found, found', order⟩
    · exact plain.logging value (same ▸ written)
    · rw [found'] at written
      cases written
      obtain ⟨_, _, same, distinct⟩ := plain.logging _ found
      cases same
      exact ⟨origin, inner', rfl, order.lowered.names.nodup_iff.1 distinct⟩

theorem rearranged_refl (value : Option Setting) : Option.Rel Rearranged value value := by
  cases value with
  | none => exact .none
  | some value => exact .some (.same value)

theorem Plain.writtenIn_rel (plain : Plain table) (rearranged : RearrangedEntries table table')
    (k : Slot) : Option.Rel Rearranged (k.writtenIn table) (k.writtenIn table') := by
  have outer := rearranged.lowered.lookup_rel plain.distinct
  have inner : ∀ name, Option.Rel Rearranged
      (lookup name (lowered (asTable (lookup "logging" (lowered table))).2))
      (lookup name (lowered (asTable (lookup "logging" (lowered table'))).2)) := by
    intro name
    rcases plain.logging_cases rearranged with same | ⟨origin, inner, inner', found, found', order⟩
    · rw [same]
      exact rearranged_refl _
    · obtain ⟨_, _, same, distinct⟩ := plain.logging _ found
      cases same
      rw [found, found']
      exact order.lowered.lookup_rel distinct name
  cases k with
  | executorImage => exact outer _
  | rolePrefix => exact outer _
  | level => exact inner _
  | json => exact inner _

theorem Rearranged.layOver {value value' : Setting} (rearranged : Rearranged value value')
    (below : Option Setting) : Matching (value.layOver below) (value'.layOver below) := by
  cases rearranged with
  | same => exact .inl rfl
  | @table origin entries entries' rearranged =>
    cases rearranged with
    | nil => exact .inl rfl
    | @insert name inner inner' rest front back first later =>
      have solid : (front ++ (name, inner') :: back).isEmpty = false := by simp
      have laid : (Setting.table origin (front ++ (name, inner') :: back)).layOver below =
          Setting.table (asTable below).1
            (entriesOver (front ++ (name, inner') :: back) (asTable below).2) := by
        rw [Setting.layOver, solid]
        rfl
      exact .inr ⟨_, _, _, rfl, laid⟩

theorem Plain.laid_matching (plain : Plain table) (rearranged : RearrangedEntries table table')
    (environment : List (String × String)) (k : Slot) :
    Matching (k.laid environment table) (k.laid environment table') := by
  unfold Slot.laid
  cases k.inEnvironment environment with
  | some value => exact .inl rfl
  | none =>
    have written := plain.writtenIn_rel rearranged k
    generalize k.writtenIn table = value at written
    generalize k.writtenIn table' = value' at written
    cases written with
    | none => exact .inl rfl
    | some related => exact related.layOver _

/-- Where a file uses no paths and names nothing twice, loading comes to one thing in every order. -/
theorem MayLoad.eq_load {file : Option SettingsFile} {path : Option String}
    {environment : List (String × String)} {outcome : Except SettingsFault Settings}
    (loads : MayLoad file path environment outcome) (read : ofFile file path = .ok table)
    (plain : Plain table) (known : Known environment) :
    outcome = load file path environment := by
  cases loads with
  | unread fails =>
    rw [read] at fails
    cases fails
  | laid read' rearranged order =>
    rw [read] at read'
    cases read'
    have plain' := plain.rearranged rearranged
    obtain ⟨tabled, stands⟩ := standing_layAll known (.refl _) plain
    obtain ⟨tabled', stands'⟩ := standing_layAll known order plain'
    rw [load_eq read plain known, ofLayers_eq known order plain']
    refine (ofEntries_congr tabled tabled' fun k => ?_).symm
    rw [stands, stands']
    exact .some (plain.laid_matching rearranged environment k)

end PackageInstall.Settings
