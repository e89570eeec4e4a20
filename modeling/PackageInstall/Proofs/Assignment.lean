import PackageInstall.Proofs.KeyMap
import PackageInstall.Settings.File

namespace PackageInstall

theorem KeyMap.place_comm {α : Type} {k k' : String} (differ : k ≠ k') (v v' : α)
    {l : List (String × α)} (ordered : l.Pairwise fun a b => a.1 < b.1) :
    place k v (place k' v' l) = place k' v' (place k v l) := by
  have front : (place k' v' l).Pairwise fun a b => a.1 < b.1 := ordered_place ordered
  have back : (place k v l).Pairwise fun a b => a.1 < b.1 := ordered_place ordered
  apply entries_eq_of_lookup (ordered_place front) (ordered_place back)
  intro name
  rw [lookup_place _ _ _ _ front, lookup_place _ _ _ _ ordered, lookup_place _ _ _ _ back,
    lookup_place _ _ _ _ ordered]
  by_cases here : name = k
  · simp [here, differ]
  · simp [here]

namespace Settings

open Setting
open KeyMap (lookup place)
open Text (Scan)

namespace Path

theorem run_name (cs : List Char) : name.run cs =
    if (cs.takeWhile isNameChar).isEmpty then none
    else some (String.ofList (cs.takeWhile isNameChar), cs.dropWhile isNameChar) := by
  have spanned : (Scan.span isNameChar).run cs =
      some (cs.takeWhile isNameChar, cs.dropWhile isNameChar) := rfl
  unfold name Scan.some
  rw [StateT.run_map, StateT.run_bind, spanned]
  by_cases empty : (cs.takeWhile isNameChar).isEmpty = true
  · simp only [Option.bind_eq_bind, Option.bind_some, if_pos empty]
    rfl
  · simp only [Option.bind_eq_bind, Option.bind_some, if_neg empty]
    rfl

theorem run_steps_nil : (Scan.many step).run [] = some ([], []) := rfl

theorem run_steps_other {c : Char} (point : c ≠ '.') (bracket : c ≠ '[') (rest : List Char) :
    (Scan.many step).run (c :: rest) = none := by
  have stops : step.run (c :: rest) = none := by
    unfold step Scan.peek Scan.rest
    simp only [bind_pure_comp, bind_map_left, StateT.run_bind, StateT.run_get, Option.pure_def,
      Option.bind_eq_bind, Option.bind_some, List.head?_cons]
    split
    · next same => cases same
    · next same => exact absurd (Option.some.inj same) point
    · next same => exact absurd (Option.some.inj same) bracket
    · rfl
  unfold Scan.many Scan.rest Scan.repeatUpTo
  simp [stops]

theorem ofText_plain {s : String} (noPoint : '.' ∉ s.toList) (noBracket : '[' ∉ s.toList) :
    ofText s = ⟨s, []⟩ := by
  unfold ofText Scan.all
  simp only [StateT.run_bind, run_name]
  by_cases empty : (s.toList.takeWhile isNameChar).isEmpty
  · simp [empty]
  · cases tail : s.toList.dropWhile isNameChar with
    | nil =>
      have whole : s.toList.takeWhile isNameChar = s.toList := by
        have parts := List.takeWhile_append_dropWhile (p := isNameChar) (l := s.toList)
        rwa [tail, List.append_nil] at parts
      rw [if_neg empty, whole, String.ofList_toList]
      simp [run_steps_nil]
    | cons c rest =>
      have member : c ∈ s.toList := (List.dropWhile_sublist _).subset (tail ▸ List.mem_cons_self)
      have point : c ≠ '.' := fun same => noPoint (same ▸ member)
      have bracket : c ≠ '[' := fun same => noBracket (same ▸ member)
      simp [empty, run_steps_other point bracket]

end Path

def Sorted (entries : List (String × Setting)) : Prop := entries.Pairwise fun a b => a.1 < b.1

theorem sorted_entriesOver (entries : List (String × Setting)) {below : List (String × Setting)}
    (sorted : Sorted below) : Sorted (entriesOver entries below) := by
  induction entries generalizing below with
  | nil => exact sorted
  | cons e rest ih => exact ih (KeyMap.ordered_place sorted)

theorem sorted_layOver (value : Setting) {below : Option Setting}
    (sorted : Sorted (asTable below).2) : Sorted (asTable (some (value.layOver below))).2 := by
  cases value with
  | atom origin a => exact .nil
  | list origin items => exact .nil
  | table origin entries =>
    cases entries with
    | nil =>
      cases below with
      | none => exact .nil
      | some s => exact sorted
    | cons e rest => exact sorted_entriesOver (e :: rest) sorted

theorem sorted_putAt (value : Setting) (steps : List Step) {below : Option Setting}
    (sorted : Sorted (asTable below).2) : Sorted (asTable (some (putAt value steps below))).2 := by
  cases steps with
  | nil => exact sorted_layOver value sorted
  | cons step steps =>
    cases step with
    | entry name => exact KeyMap.ordered_place sorted
    | item place => exact .nil

theorem putAt_entry (value : Setting) (name : String) (steps : List Step)
    (below : Option Setting) :
    putAt value (.entry name :: steps) below =
      table (asTable below).1 (place (Text.lower name)
        (putAt value steps (lookup (Text.lower name) (asTable below).2)) (asTable below).2) := rfl

/-- Entries in order, also those of the tables among them. -/
structure Settled (entries : List (String × Setting)) : Prop where
  sorted : Sorted entries
  inner : ∀ name, Sorted (asTable (lookup name entries)).2

theorem Settled.nil : Settled [] := ⟨.nil, fun _ => .nil⟩

variable {entries : List (String × Setting)}

theorem lay_cons (entries : List (String × Setting)) (e : String × Setting) (rest : Layer) :
    lay entries (e :: rest) = lay (assign entries e.1 e.2) rest := rfl

theorem lay_append (entries : List (String × Setting)) (front back : Layer) :
    lay entries (front ++ back) = lay (lay entries front) back := List.foldl_append

theorem lookup_assign (sorted : Sorted entries) (path : String) (value : Setting) (name : String) :
    lookup name (assign entries path value) =
      if name = Text.lower (Path.ofText path).first then
        some (putAt value (Path.ofText path).steps
          (lookup (Text.lower (Path.ofText path).first) entries))
      else lookup name entries :=
  KeyMap.lookup_place _ _ _ _ sorted

theorem Settled.assign (settled : Settled entries) (path : String) (value : Setting) :
    Settled (assign entries path value) where
  sorted := KeyMap.ordered_place settled.sorted
  inner name := by
    rw [lookup_assign settled.sorted]
    split
    · exact sorted_putAt value _ (settled.inner _)
    · exact settled.inner name

theorem Settled.lay (settled : Settled entries) (layer : Layer) :
    Settled (lay entries layer) := by
  induction layer generalizing entries with
  | nil => exact settled
  | cons e rest ih =>
    rw [lay_cons]
    exact ih (settled.assign e.1 e.2)

/-- Paths that part at their first name or at their first step. -/
def Path.Parts (p q : Path) : Prop :=
  Text.lower p.first ≠ Text.lower q.first ∨
    ∃ m n ps qs, p.steps = .entry m :: ps ∧ q.steps = .entry n :: qs ∧ Text.lower m ≠ Text.lower n

theorem putAt_comm {m n : String} (differ : Text.lower m ≠ Text.lower n) (x y : Setting)
    (ps qs : List Step) {below : Option Setting} (sorted : Sorted (asTable below).2) :
    putAt y (.entry n :: qs) (some (putAt x (.entry m :: ps) below)) =
      putAt x (.entry m :: ps) (some (putAt y (.entry n :: qs) below)) := by
  have stays : ∀ (k k' : String) (s : Setting), k ≠ k' →
      lookup k (place k' s (asTable below).2) = lookup k (asTable below).2 := fun k k' s other => by
    rw [KeyMap.lookup_place _ _ _ _ sorted, if_neg other]
  have entries : ∀ origin es, asTable (some (table origin es)) = (origin, es) := fun _ _ => rfl
  simp only [putAt_entry, entries]
  rw [stays _ _ _ differ.symm, stays _ _ _ differ, KeyMap.place_comm differ.symm _ _ sorted]

theorem assign_comm (settled : Settled entries) {a b : String}
    (parts : (Path.ofText a).Parts (Path.ofText b)) (x y : Setting) :
    assign (assign entries a x) b y = assign (assign entries b y) a x := by
  have sorted : Sorted (assign (assign entries a x) b y) := ((settled.assign a x).assign b y).sorted
  have sorted' : Sorted (assign (assign entries b y) a x) :=
    ((settled.assign b y).assign a x).sorted
  apply KeyMap.entries_eq_of_lookup sorted sorted'
  intro name
  simp only [lookup_assign (settled.assign a x).sorted, lookup_assign (settled.assign b y).sorted,
    lookup_assign settled.sorted]
  rcases parts with apart | ⟨m, n, ps, qs, steps, steps', differ⟩
  · by_cases here : name = Text.lower (Path.ofText a).first
    · simp [here, apart]
    · simp [here, apart.symm]
  · -- Both go into one table, at different entries, unless their first names differ as well.
    by_cases same : Text.lower (Path.ofText a).first = Text.lower (Path.ofText b).first
    · by_cases here : name = Text.lower (Path.ofText b).first
      · simp only [same, here, if_true, steps, steps',
          putAt_comm differ x y ps qs (settled.inner _)]
      · simp [same, here]
    · by_cases here : name = Text.lower (Path.ofText a).first
      · simp [here, same]
      · simp [here, Ne.symm same]

/-- A value put at a path that all later ones part from may be put last. -/
theorem lay_assign (settled : Settled entries) {path : String} (x : Setting) {layer : Layer}
    (parts : ∀ e ∈ layer, (Path.ofText path).Parts (Path.ofText e.1)) :
    lay (assign entries path x) layer = assign (lay entries layer) path x := by
  induction layer generalizing entries with
  | nil => rfl
  | cons e rest ih =>
    have later : ∀ e' ∈ rest, (Path.ofText path).Parts (Path.ofText e'.1) :=
      fun e' member => parts e' (List.mem_cons_of_mem _ member)
    rw [lay_cons, lay_cons, assign_comm settled (parts e List.mem_cons_self),
      ih (settled.assign e.1 e.2) later]

/-- A path that counts no place from the end of a list. -/
def Path.Forward (p : Path) : Prop := ∀ n, .item n ∈ p.steps → 0 ≤ n

theorem strays_of_forward {steps : List Step} (forward : ∀ n, .item n ∈ steps → 0 ≤ n)
    (below : Option Setting) : strays steps below = false := by
  induction steps generalizing below with
  | nil => rfl
  | cons step steps ih =>
    have later : ∀ n, .item n ∈ steps → 0 ≤ n :=
      fun n member => forward n (List.mem_cons_of_mem _ member)
    cases step with
    | entry name => exact ih later _
    | item n =>
      have counted : 0 ≤ n := forward n List.mem_cons_self
      have inside : ¬((asList below).2.length + n < 0) := by omega
      simp [strays, ih later, inside]

theorem layStrays_of_forward {layer : Layer}
    (forward : ∀ e ∈ layer, (Path.ofText e.1).Forward) (entries : List (String × Setting)) :
    layStrays entries layer = false := by
  induction layer generalizing entries with
  | nil => rfl
  | cons e rest ih =>
    have later : ∀ e' ∈ rest, (Path.ofText e'.1).Forward :=
      fun e' member => forward e' (List.mem_cons_of_mem _ member)
    rw [layStrays, ih later, assignStrays, strays_of_forward (forward e List.mem_cons_self)]
    rfl

theorem layStrays_append (entries : List (String × Setting)) (front back : Layer) :
    layStrays entries (front ++ back) =
      (layStrays entries front || layStrays (lay entries front) back) := by
  induction front generalizing entries with
  | nil => rfl
  | cons e rest ih => rw [List.cons_append, layStrays, layStrays, ih, lay_cons, Bool.or_assoc]

theorem assignStrays_assign (settled : Settled entries) {a b : String}
    (parts : (Path.ofText a).Parts (Path.ofText b)) (x : Setting) :
    assignStrays (assign entries a x) b = assignStrays entries b := by
  rw [assignStrays, assignStrays, lookup_assign settled.sorted]
  rcases parts with apart | ⟨m, n, ps, qs, steps, steps', differ⟩
  · rw [if_neg apart.symm]
  · by_cases same : Text.lower (Path.ofText b).first = Text.lower (Path.ofText a).first
    · have sorted : Sorted (asTable (lookup (Text.lower (Path.ofText a).first) entries)).2 :=
        settled.inner _
      have tabled : ∀ origin es, asTable (some (table origin es)) = (origin, es) := fun _ _ => rfl
      rw [if_pos same, steps, steps', putAt_entry, same]
      simp only [strays, tabled, KeyMap.lookup_place _ _ _ _ sorted, if_neg differ.symm]
    · rw [if_neg same]

theorem layStrays_assign (settled : Settled entries) {path : String} (x : Setting) {layer : Layer}
    (parts : ∀ e ∈ layer, (Path.ofText path).Parts (Path.ofText e.1)) :
    layStrays (assign entries path x) layer = layStrays entries layer := by
  induction layer generalizing entries with
  | nil => rfl
  | cons e rest ih =>
    have first : (Path.ofText path).Parts (Path.ofText e.1) := parts e List.mem_cons_self
    have later : ∀ e' ∈ rest, (Path.ofText path).Parts (Path.ofText e'.1) :=
      fun e' member => parts e' (List.mem_cons_of_mem _ member)
    rw [layStrays, layStrays, assignStrays_assign settled first, assign_comm settled first,
      ih (settled.assign e.1 e.2) later]

end Settings

end PackageInstall
