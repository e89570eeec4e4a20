import PackageInstall.Proofs.Numeral
import PackageInstall.Proofs.Order

namespace PackageInstall.Settings

open Setting
open KeyMap (lookup place)
open Numeral (Whole Number Shortest)
open Reading (bind_eq_ok_iff)

def Word (v : String) (b : Bool) : Prop := v.toList.map Char.toLower = (toString b).toList

/-- The text of the value that a variable has. -/
inductive Shown (v : String) : String → Prop where
  | word {b : Bool} (spelled : Word v b) : Shown v (toString b)
  | whole {n : Int} (spelled : Whole v.toList n) (fits : isInt64 n = true) : Shown v (toString n)
  | number {x : Binary64} (spelled : Number v.toList x)
      (unfit : ∀ n, Whole v.toList n → isInt64 n = false) : Shown v x.plain
  | text (noWord : ∀ b, ¬Word v b) (noNumber : ∀ x, ¬Number v.toList x) : Shown v v

/-- The texts that are written as their values are shown. -/
inductive Kept (v : String) : Prop where
  | word (b : Bool) (same : v = toString b)
  | whole {n : Int} (spelled : Whole v.toList n) (fits : isInt64 n = true)
      (shortest : Shortest v.toList)
  | number {x : Binary64} (spelled : Number v.toList x)
      (unfit : ∀ n, Whole v.toList n → isInt64 n = false) (same : x.plain = v)
  | text (noWord : ∀ b, ¬Word v b) (noNumber : ∀ x, ¬Number v.toList x)

theorem word_toString (b : Bool) : Word (toString b) b := by
  cases b <;> rfl

theorem Word.unique {v : String} {b b' : Bool} (left : Word v b) (right : Word v b') : b = b' := by
  have same : (toString b).toList = (toString b').toList := left.symm.trans right
  revert same
  cases b <;> cases b' <;> decide

theorem Word.not_number {v : String} {b : Bool} (word : Word v b) (x : Binary64) :
    ¬Number v.toList x := by
  intro number
  obtain ⟨c, rest, shape, noT, noF⟩ := number.head
  rw [Word, shape] at word
  cases b with
  | false => exact noF (List.cons.inj word).1
  | true => exact noT (List.cons.inj word).1

theorem Shown.eq_iff {v t : String} (shown : Shown v t) : t = v ↔ Kept v := by
  -- A text spells a value in one way only, so of the cases of `Kept` only the like one can be.
  cases shown with
  | @word b spelled =>
    constructor
    · exact fun same => .word b same.symm
    · rintro (⟨b', rfl⟩ | ⟨whole, -, -⟩ | ⟨number, -, -⟩ | ⟨noWord, -⟩)
      · rw [spelled.unique (word_toString b')]
      · obtain ⟨x, number⟩ := whole.number
        exact absurd number (spelled.not_number x)
      · exact absurd number (spelled.not_number _)
      · exact absurd spelled (noWord b)
  | @whole n spelled fits =>
    obtain ⟨x, isNumber⟩ := spelled.number
    rw [Numeral.toString_eq_iff spelled]
    constructor
    · exact .whole spelled fits
    · rintro (⟨b, rfl⟩ | ⟨-, -, shortest⟩ | ⟨-, unfit, -⟩ | ⟨-, noNumber⟩)
      · exact absurd isNumber ((word_toString b).not_number x)
      · exact shortest
      · rw [unfit n spelled] at fits
        cases fits
      · exact absurd isNumber (noNumber x)
  | @number x spelled unfit =>
    constructor
    · exact .number spelled unfit
    · rintro (⟨b, rfl⟩ | ⟨whole, fits, -⟩ | ⟨number, -, same⟩ | ⟨-, noNumber⟩)
      · exact absurd spelled ((word_toString b).not_number x)
      · rw [unfit _ whole] at fits
        cases fits
      · rwa [spelled.unique number]
      · exact absurd spelled (noNumber x)
  | text noWord noNumber => exact ⟨fun _ => .text noWord noNumber, fun _ => rfl⟩

theorem Kept.unmarked {v : String} (kept : Kept v) {x : Binary64} (number : Number v.toList x) :
    '+' ∉ v.toList ∧ 'e' ∉ v.toList ∧ 'E' ∉ v.toList := by
  have shown : ∀ c ∈ v.toList, Numeral.isShown c = true := by
    intro c member
    rcases kept with ⟨b, rfl⟩ | ⟨-, -, shortest⟩ | ⟨-, -, same⟩ | ⟨-, noNumber⟩
    · exact absurd number ((word_toString b).not_number x)
    · exact Numeral.isShown_of_shortest shortest member
    · exact List.all_eq_true.1 (same ▸ Numeral.shown_plain _) c member
    · exact absurd number (noNumber x)
  have absent : ∀ c, Numeral.isShown c = false → c ∉ v.toList := by
    intro c other member
    rw [shown c member] at other
    cases other
  exact ⟨absent '+' (by decide), absent 'e' (by decide), absent 'E' (by decide)⟩

theorem Kept.of_mem {v : String} {c : Char} (member : c ∈ v.toList)
    (noNumeric : Numeral.isNumeric c = false)
    (noLetter : "truefals".toList.contains c.toLower = false) : Kept v := by
  refine .text ?_ ?_
  · intro b word
    have letter : c.toLower ∈ (toString b).toList := word ▸ List.mem_map_of_mem member
    have all : ∀ b : Bool, (toString b).toList.all "truefals".toList.contains = true := by decide
    rw [List.all_eq_true.1 (all b) _ letter] at noLetter
    cases noLetter
  · intro x number
    rw [number.isNumeric member] at noNumeric
    cases noNumeric

example : Kept "crossplane/crossplane:latest" :=
  .of_mem (c := '/') (by decide) (by decide) (by decide)

theorem asText_ofVariable (v : String) :
    ∃ t, Shown v t ∧ ∀ origin key, (atom origin (.ofVariable v)).asText key = .ok t := by
  unfold Atom.ofVariable
  simp only
  split
  · next isTrue => exact ⟨_, .word (b := true) isTrue, fun _ _ => rfl⟩
  · next noTrue =>
    split
    · next isFalse => exact ⟨_, .word (b := false) isFalse, fun _ _ => rfl⟩
    · next noFalse =>
      have noWord : ∀ b, ¬Word v b := by
        intro b
        cases b with
        | false => exact noFalse
        | true => exact noTrue
      -- Where none was read, a whole number that is written is too large.
      have unfit : Atom.int64? v.toList = none → ∀ n, Whole v.toList n → isInt64 n = false := by
        intro none n whole
        have reads := (Numeral.int_eq_some_iff v.toList n).2 whole
        simpa [Atom.int64?, reads, Option.filter_some] using none
      split
      · next n _ reads =>
        obtain ⟨isWhole, fits⟩ := Option.filter_eq_some_iff.1 reads
        exact ⟨_, .whole ((Numeral.int_eq_some_iff _ _).1 isWhole) fits, fun _ _ => rfl⟩
      · next x none reads =>
        exact ⟨_, .number ((Numeral.float_eq_some_iff _ _).1 reads) (unfit none), fun _ _ => rfl⟩
      · next none noFloat =>
        have noNumber : ∀ x, ¬Number v.toList x := by
          intro x number
          rw [(Numeral.float_eq_some_iff _ _).2 number] at noFloat
          cases noFloat
        exact ⟨v, .text noWord noNumber, fun _ _ => rfl⟩

variable {entries : List (String × Setting)}

theorem orDefault_eq_ok {α : Type} {read : Setting → Except SettingsFault α} {absent : α}
    {setting : Option Setting} {a : α} (reads : orDefault read absent setting = .ok a) :
    setting = none ∧ a = absent ∨ ∃ value, setting = some value ∧ read value = .ok a := by
  cases setting with
  | none => exact .inl ⟨rfl, (Except.ok.inj reads).symm⟩
  | some value => exact .inr ⟨value, rfl, reads⟩

theorem ofSetting_level {below : Option Setting} {l : Logging}
    (sorted : Sorted (asTable below).2)
    (reads : orDefault Logging.ofSetting .default below = .ok l) {level : Setting} {t : String}
    (isText : level.asText "logging.level" = .ok t) :
    ∃ json, Logging.ofSetting
      (.table (asTable below).1 (place "level" level (asTable below).2)) = .ok ⟨t, json⟩ := by
  have json : ∃ json, orDefault (asTruth "logging.json") Logging.default.json
      (lookup "json" (asTable below).2) = .ok json := by
    rcases orDefault_eq_ok reads with ⟨rfl, -⟩ | ⟨value, rfl, isLogging⟩
    · exact ⟨_, rfl⟩
    · cases value with
      | atom origin a => cases isLogging
      | list origin items =>
        -- A list gives way to the table, and its truth value is lost.
        exact ⟨_, rfl⟩
      | table origin inner =>
        obtain ⟨json, isTruth, -⟩ := bind_eq_ok_iff.1 isLogging
        exact ⟨json, isTruth⟩
  obtain ⟨json, isTruth⟩ := json
  refine ⟨json, ?_⟩
  rw [Logging.ofSetting, KeyMap.lookup_place _ _ _ _ sorted, KeyMap.lookup_place _ _ _ _ sorted,
    if_pos rfl, if_neg (by decide), isTruth, orDefault_some, isText]
  rfl

theorem ofEntries_assign (settled : Settled entries) {s₀ : Settings}
    (reads : ofEntries entries = .ok s₀) {k : Slot} (isText : k ≠ .json)
    {origin : Option Origin} {a : Atom} {t : String}
    (shows : ∀ key, (atom origin a).asText key = .ok t) :
    ∃ s, ofEntries (assign entries k.pathText (.atom origin a)) = .ok s ∧
      k.valueIn s = .atom none (.text t) := by
  obtain ⟨image, isImage, rest⟩ := bind_eq_ok_iff.1 reads
  obtain ⟨logging, isLogging, rest⟩ := bind_eq_ok_iff.1 rest
  obtain ⟨rolePrefix, isPrefix, -⟩ := bind_eq_ok_iff.1 rest
  have top : ∀ below, putAt (.atom origin a) [] below = .atom origin a := fun _ => rfl
  cases k with
  | executorImage =>
    refine ⟨⟨t, rolePrefix, logging⟩, ?_, rfl⟩
    simp only [ofEntries, lookup_assign_slot settled.sorted, Slot.path, top]
    simp [orDefault_some, shows, isLogging, isPrefix, bind, Except.bind, pure, Except.pure]
  | rolePrefix =>
    refine ⟨⟨image, t, logging⟩, ?_, rfl⟩
    simp only [ofEntries, lookup_assign_slot settled.sorted, Slot.path, top]
    simp [orDefault_some, shows, isLogging, isImage, bind, Except.bind, pure, Except.pure]
  | level =>
    obtain ⟨json, isLevel⟩ := ofSetting_level (settled.inner "logging") isLogging
      (shows "logging.level")
    have small : Text.lower "level" = "level" := by decide +kernel
    have lays : ∀ below, (Setting.atom origin a).layOver below = .atom origin a := fun _ => rfl
    refine ⟨⟨image, rolePrefix, t, json⟩, ?_, rfl⟩
    simp only [ofEntries, lookup_assign_slot settled.sorted, Slot.path, putAt_entry, small]
    simp [orDefault_some, isLevel, isImage, isPrefix, putAt, lays, bind, Except.bind, pure,
      Except.pure]
  | json => exact absurd rfl isText

theorem Slot.parts {k k' : Slot} (differ : k ≠ k') : k.path.Parts k'.path := by
  have small : Text.lower "level" ≠ Text.lower "json" := by decide +kernel
  by_cases first : k.path.first = k'.path.first
  · cases k <;> cases k' <;> simp [Slot.path] at first differ
    · exact .inr ⟨_, _, _, _, rfl, rfl, small⟩
    · exact .inr ⟨_, _, _, _, rfl, rfl, small.symm⟩
  · left
    rwa [k.lower_first, k'.lower_first]

theorem Path.Parts.irrefl (p : Path) : ¬p.Parts p := by
  rintro (differ | ⟨m, n, ps, qs, steps, steps', differ⟩)
  · exact differ rfl
  · rw [steps] at steps'
    cases steps'
    exact differ rfl

theorem distinct_without {before after : List (String × String)} {e : String × String}
    (distinct : ((before ++ e :: after).map (·.1)).Nodup) :
    ((before ++ after).map (·.1)).Nodup :=
  distinct.sublist (((List.sublist_cons_self _ after).append_left before).map _)

theorem ofEnvironment_variable {before after : List (String × String)} {k : Slot} {v : String}
    (distinct : ((before ++ (k.variableName, v) :: after).map (·.1)).Nodup)
    (apart : ∀ e ∈ before ++ after, ∀ path, pathOfVariable e.1 = some path →
      k.path.Parts (Path.ofText path)) :
    (ofEnvironment (before ++ (k.variableName, v) :: after)).Perm
      ((k.pathText, .atom (some .environment) (.ofVariable v)) ::
        ofEnvironment (before ++ after)) := by
  have unset : ∀ e : String × Setting,
      e ∈ (before ++ after).filterMap (fun v => ofVariable v.1 v.2) → k.pathText ≠ e.1 := by
    intro e member same
    obtain ⟨variable', inside, sets⟩ := List.mem_filterMap.1 member
    obtain ⟨path, isPath, rfl⟩ := Option.map_eq_some_iff.1 sets
    have here : Path.ofText path = k.path := by
      rw [← k.ofText_pathText]
      exact congrArg Path.ofText same.symm
    exact Path.Parts.irrefl _ (here ▸ apart variable' inside path isPath)
  have absent : k.pathText ∉ (ofEnvironment (before ++ after)).map (·.1) := by
    rw [ofEnvironment_eq (distinct_without distinct)]
    intro member
    obtain ⟨e, inside, same⟩ := List.mem_map.1 member
    exact unset e (KeyMap.mem_of_mem_ofList inside) same.symm
  have absent' : k.pathText ∉ (after.filterMap fun v => ofVariable v.1 v.2).map (·.1) := by
    intro member
    obtain ⟨e, inside, same⟩ := List.mem_map.1 member
    refine unset e ?_ same.symm
    rw [List.filterMap_append]
    exact List.mem_append_right _ inside
  have inserted : ofEnvironment (before ++ (k.variableName, v) :: after) =
      KeyMap.place k.pathText (.atom (some .environment) (.ofVariable v))
        (ofEnvironment (before ++ after)) := by
    rw [ofEnvironment_eq distinct, ofEnvironment_eq (distinct_without distinct),
      List.filterMap_append, List.filterMap_append, List.filterMap_cons, ofVariable_slot]
    exact congrArg KeyMap.entries (KeyMap.ofList_middle _ _ absent')
  rw [inserted]
  exact KeyMap.perm_place absent _

theorem ofLayers_variable {front back : Layer} {k : Slot}
    (parts : ∀ e ∈ back, k.path.Parts (Path.ofText e.1)) (table : Layer) {value : Setting}
    {s₀ : Settings} (loads : ofLayers [default.layer, table, front ++ back] = .ok s₀) :
    ofEntries (layAll [default.layer, table, front ++ back]) = .ok s₀ ∧
      ofLayers [default.layer, table, front ++ (k.pathText, value) :: back] =
        ofEntries (assign (layAll [default.layer, table, front ++ back]) k.pathText value) := by
  let laid := lay (lay (lay [] default.layer) table) front
  have settled : Settled laid := ((Settled.nil.lay _).lay _).lay _
  have parts' : ∀ e ∈ back, (Path.ofText k.pathText).Parts (Path.ofText e.1) := by
    rwa [k.ofText_pathText]
  have inside : assignStrays laid k.pathText = false := by
    rw [assignStrays, k.ofText_pathText]
    exact strays_of_forward k.forward _
  have strays : layStrays [] [default.layer, table, front ++ (k.pathText, value) :: back].flatten =
      layStrays [] [default.layer, table, front ++ back].flatten := by
    simp only [List.flatten_cons, List.flatten_nil, List.append_nil, layStrays_append, layStrays]
    rw [inside, layStrays_assign settled value parts', Bool.false_or]
  have laidAll : layAll [default.layer, table, front ++ (k.pathText, value) :: back] =
      assign (layAll [default.layer, table, front ++ back]) k.pathText value := by
    show lay (lay (lay [] default.layer) table) (front ++ (k.pathText, value) :: back) =
      assign (lay (lay (lay [] default.layer) table) (front ++ back)) k.pathText value
    rw [lay_append, lay_append, lay_cons]
    exact lay_assign settled value parts'
  rw [ofLayers] at loads ⊢
  rw [strays, laidAll]
  split at loads
  · cases loads
  · next loadable => exact ⟨loads, if_neg loadable⟩

/-- A text setting that a variable sets is loaded where the settings can be loaded without the
variable, whatever the order in which a file's entries and the variables are laid. It is the text of
the variable's value. -/
theorem text_of_variable {file : Option SettingsFile} {path : Option String}
    {before after : List (String × String)} {k : Slot} {v : String}
    (isText : k ≠ .json)
    (distinct : ((before ++ (k.variableName, v) :: after).map (·.1)).Nodup)
    (apart : ∀ e ∈ before ++ after, ∀ path, pathOfVariable e.1 = some path →
      k.path.Parts (Path.ofText path))
    (others : ∀ outcome, MayLoad file path (before ++ after) outcome → ∃ s₀, outcome = .ok s₀) :
    ∃ t, Shown v t ∧ (t = v ↔ Kept v) ∧
      (∃ s, load file path (before ++ (k.variableName, v) :: after) = .ok s ∧
        k.valueIn s = .atom none (.text t)) ∧
      ∀ outcome, MayLoad file path (before ++ (k.variableName, v) :: after) outcome →
        ∃ s, outcome = .ok s ∧ k.valueIn s = .atom none (.text t) := by
  obtain ⟨t, shown, shows⟩ := asText_ofVariable v
  have every : ∀ outcome, MayLoad file path (before ++ (k.variableName, v) :: after) outcome →
      ∃ s, outcome = .ok s ∧ k.valueIn s = .atom none (.text t) := by
    intro outcome may
    cases may with
    | unread fails =>
      obtain ⟨_, isOk⟩ := others _ (.unread fails)
      cases isOk
    | @laid table table' upper read entries order =>
      have order' := order.trans (ofEnvironment_variable distinct apart)
      -- Without the variable's value, these are the other variables' in some order.
      obtain ⟨front, back, rfl⟩ :=
        List.append_of_mem (order'.mem_iff.2 List.mem_cons_self)
      have rest : (front ++ back).Perm (ofEnvironment (before ++ after)) :=
        (List.perm_middle.symm.trans order').cons_inv
      obtain ⟨s₀, loads⟩ := others _ (.laid read entries rest)
      have parts : ∀ e ∈ back, k.path.Parts (Path.ofText e.1) := by
        intro e member
        have member' : e ∈ ofEnvironment (before ++ after) :=
          rest.mem_iff.1 (List.mem_append_right _ member)
        obtain ⟨variable', inside, sets⟩ := mem_ofEnvironment (distinct_without distinct) member'
        obtain ⟨path, isPath, rfl⟩ := Option.map_eq_some_iff.1 sets
        exact apart variable' inside path isPath
      obtain ⟨reads, laid⟩ := ofLayers_variable parts table' loads
      have settled : Settled (layAll [default.layer, table', front ++ back]) :=
        ((Settled.nil.lay _).lay _).lay _
      rw [laid]
      exact ofEntries_assign settled reads isText (shows (some .environment))
  exact ⟨t, shown, shown.eq_iff, every _ (mayLoad_load _ _ _), every⟩

theorem text_of_variable_sample :
    (Slot.rolePrefix ≠ .json ∧ ∀ outcome, MayLoad (some layeredFile) (some "c.json")
        ([(Slot.level.variableName, "warn")] ++ [(Slot.json.variableName, "yes")]) outcome →
      ∃ s₀, outcome = .ok s₀) ∧
    ∃ t, Shown "+1.50e3" t ∧ (t = "+1.50e3" ↔ Kept "+1.50e3") ∧
      (∃ s, load (some layeredFile) (some "c.json") ([(Slot.level.variableName, "warn")] ++
          (Slot.rolePrefix.variableName, "+1.50e3") :: [(Slot.json.variableName, "yes")]) = .ok s ∧
        Slot.rolePrefix.valueIn s = .atom none (.text t)) ∧
      ∀ outcome, MayLoad (some layeredFile) (some "c.json") ([(Slot.level.variableName, "warn")] ++
          (Slot.rolePrefix.variableName, "+1.50e3") :: [(Slot.json.variableName, "yes")]) outcome →
        ∃ s, outcome = .ok s ∧ Slot.rolePrefix.valueIn s = .atom none (.text t) := by
  have slots : ∀ e ∈ [(Slot.level.variableName, "warn")] ++ [(Slot.json.variableName, "yes")],
      ∃ k : Slot, e.1 = k.variableName ∧ Slot.rolePrefix ≠ k := by
    simp only [List.cons_append, List.nil_append, List.mem_cons, List.not_mem_nil, or_false]
    rintro e (rfl | rfl)
    · exact ⟨.level, rfl, by decide⟩
    · exact ⟨.json, rfl, by decide⟩
  have known : Known ([(Slot.level.variableName, "warn")] ++ [(Slot.json.variableName, "yes")]) :=
    ⟨by decide, fun e member => .inl ((slots e member).imp fun _ => And.left)⟩
  have loaded : load (some layeredFile) (some "c.json")
      ([(Slot.level.variableName, "warn")] ++ [(Slot.json.variableName, "yes")]) =
        .ok ⟨"crossplane/crossplane:latest", "7", ⟨"warn", true⟩⟩ :=
    (load_eq_ok_iff ofFile_layeredFile plain_layeredTable known _).2 ⟨rfl, rfl, rfl, rfl⟩
  have others : ∀ outcome, MayLoad (some layeredFile) (some "c.json")
      ([(Slot.level.variableName, "warn")] ++ [(Slot.json.variableName, "yes")]) outcome →
        ∃ s₀, outcome = .ok s₀ := fun outcome may =>
    ⟨_, (may.eq_load ofFile_layeredFile plain_layeredTable known).trans loaded⟩
  refine ⟨⟨by decide, others⟩, text_of_variable (by decide) (by decide) ?_ others⟩
  intro e member path isPath
  obtain ⟨k, isSlot, differ⟩ := slots e member
  rw [isSlot, k.pathOfVariable_eq] at isPath
  cases isPath
  rw [k.ofText_pathText]
  exact Slot.parts differ

/-- Zeros before a number are not handed on. -/
theorem leading_zeros_dropped :
    load none none [] = .ok default ∧
      ∃ s, load none none [(Slot.rolePrefix.variableName, "007")] = .ok s ∧
        s.rolePrefix = "7" ∧ s.rolePrefix ≠ "007" :=
  ⟨by decide +kernel, ⟨"crossplane/crossplane:latest", "7", .default⟩, by decide +kernel, rfl,
    by decide⟩

end PackageInstall.Settings
