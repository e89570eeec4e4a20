import Mathlib.Data.List.Find
import Mathlib.Data.List.Sort
import PackageInstall.Proofs.Chronicle

namespace PackageInstall

inductive Change where
  | create (o : Object) (i : Identity)
  | delete (c : Coordinates) (k : ObjectKey)

abbrev Reply : Type := Except StoreError (Option Object)

def Reply.isCreation : Reply → Bool
  | .ok (some _) => true
  | _ => false

def Change.run {σ : Type} (change : σ → Change → Reply × σ) (s : σ) : List Change → List Reply × σ
  | [] => ([], s)
  | first :: rest =>
    let (reply, next) := change s first
    let (replies, last) := Change.run change next rest
    (reply :: replies, last)

abbrev Succession : Type := List Object

namespace Succession

def places (l : Succession) : List Place := l.map Object.place

def change (l : Succession) : Change → Reply × Succession
  | .create o i =>
    if o.name = "" then (.error (.invalid (o.kind ++ " object has no name")), l)
    else if o.place ∈ l.places then
      (.error (.alreadyExists o.coordinates.kind (.ofObject o)), l)
    else
      let created : Object := { o with
        metadata := { o.metadata with uid := i.uid, creationTimestamp := some i.created } }
      (.ok (some created), l ++ [created])
  | .delete c k =>
    if (c, k) ∈ l.places then (.ok none, l.filter fun o => decide (o.place ≠ (c, k)))
    else (.error (.notFound c.kind k), l)

end Succession

namespace Store

def change (s : Store) : Change → Reply × Store
  | .create o i =>
    match s.create o i with
    | .ok (created, t) => (.ok (some created), t)
    | .error e => (.error e, s)
  | .delete c k =>
    match s.delete c k with
    | .ok t => (.ok none, t)
    | .error e => (.error e, s)

variable {s : Store}

theorem change_cases (s : Store) (a : Change) :
    (∃ e, s.change a = (.error e, s)) ∨
    (∃ o i, a = .create o i ∧ s.create o i = .ok (identified o i, (s.change a).2) ∧
      s.change a = (.ok (some (identified o i)),
        ⟨s.entries ++ [entryOf o i s.issued], s.issued + 1⟩)) ∨
    ∃ c k, a = .delete c k ∧ s.delete c k = .ok (s.without c k) ∧
      s.change a = (.ok none, s.without c k) := by
  cases a with
  | create o i =>
    simp only [change]
    by_cases nameless : o.name = ""
    · rw [create_of_nameless i nameless]
      exact .inl ⟨_, rfl⟩
    · by_cases taken : o.place ∈ s.places
      · rw [create_of_taken i nameless taken]
        exact .inl ⟨_, rfl⟩
      · rw [create_of_free i nameless taken]
        exact .inr (.inl ⟨o, i, rfl, create_of_free i nameless taken, rfl⟩)
  | delete c k =>
    simp only [change]
    by_cases there : (c, k) ∈ s.places
    · rw [delete_of_there there]
      exact .inr (.inr ⟨c, k, rfl, delete_of_there there, rfl⟩)
    · rw [delete_of_absent there]
      exact .inl ⟨_, rfl⟩

theorem Reachable.change (reachable : s.Reachable) (a : Change) : (s.change a).2.Reachable := by
  rcases s.change_cases a with ⟨e, refused⟩ | ⟨o, i, -, done, -⟩ | ⟨c, k, -, done, left⟩
  · rwa [refused]
  · exact reachable.create done
  · rw [left]
    exact reachable.delete done

theorem Reachable.run (reachable : s.Reachable) (changes : List Change) :
    (Change.run Store.change s changes).2.Reachable := by
  induction changes generalizing s with
  | nil => exact reachable
  | cons a rest ih => exact ih (reachable.change a)

theorem Kept.places_objects (kept : s.Kept) : Succession.places s.objects = s.places := by
  rw [Succession.places, objects, List.map_map, places]
  exact List.map_congr_left fun e member => (kept.keyed e member).symm

theorem Kept.isAt_eq (kept : s.Kept) {e : Entry} (member : e ∈ s.entries) (c : Coordinates)
    (k : ObjectKey) : e.isAt c k = decide (e.object.place = (c, k)) := by
  rw [← kept.keyed e member, Bool.eq_iff_iff, Entry.isAt_iff, decide_eq_true_iff]

theorem Kept.change_eq (kept : s.Kept) (a : Change) :
    (s.change a).1 = (Succession.change s.objects a).1 ∧
      (s.change a).2.objects = (Succession.change s.objects a).2 := by
  cases a with
  | create o i =>
    simp only [change, Succession.change, kept.places_objects]
    by_cases nameless : o.name = ""
    · rw [create_of_nameless i nameless, if_pos nameless]
      exact ⟨rfl, rfl⟩
    · rw [if_neg nameless]
      by_cases taken : o.place ∈ s.places
      · rw [create_of_taken i nameless taken, if_pos taken]
        exact ⟨rfl, rfl⟩
      · rw [create_of_free i nameless taken, if_neg taken]
        exact ⟨rfl, List.map_append⟩
  | delete c k =>
    simp only [change, Succession.change, kept.places_objects]
    by_cases there : (c, k) ∈ s.places
    · rw [delete_of_there there, if_pos there]
      refine ⟨rfl, ?_⟩
      simp only [objects, without, List.filter_map]
      refine congrArg _ (List.filter_congr fun e member => ?_)
      simp [kept.isAt_eq member]
    · rw [delete_of_absent there, if_neg there]
      exact ⟨rfl, rfl⟩

theorem Reachable.run_eq (reachable : s.Reachable) (changes : List Change) :
    (Change.run Store.change s changes).1 = (Change.run Succession.change s.objects changes).1 ∧
      (Change.run Store.change s changes).2.objects =
        (Change.run Succession.change s.objects changes).2 := by
  induction changes generalizing s with
  | nil => exact ⟨rfl, rfl⟩
  | cons a rest ih =>
    obtain ⟨reply, next⟩ := reachable.kept.change_eq a
    obtain ⟨replies, last⟩ := ih (reachable.change a)
    rw [next] at replies last
    simp only [Change.run, reply]
    exact ⟨congrArg _ replies, last⟩

theorem change_of_error {a : Change} {e : StoreError} (refused : (s.change a).1 = .error e) :
    (s.change a).2 = s := by
  rcases s.change_cases a with ⟨e', same⟩ | ⟨o, i, -, -, done⟩ | ⟨c, k, -, -, done⟩
  · rw [same]
  · rw [done] at refused
    cases refused
  · rw [done] at refused
    cases refused

theorem Reachable.ascending (reachable : s.Reachable) :
    s.entries.Pairwise fun a b => a.sequence < b.sequence := by
  induction reachable with
  | empty => exact .nil
  | @create s created o stored i before done ih =>
    by_cases nameless : o.name = ""
    · rw [create_of_nameless i nameless] at done
      cases done
    · by_cases taken : o.place ∈ s.places
      · rw [create_of_taken i nameless taken] at done
        cases done
      · rw [create_of_free i nameless taken] at done
        cases done
        refine List.pairwise_append.2 ⟨ih, List.pairwise_singleton _ _, ?_⟩
        intro e old e' new
        rw [List.mem_singleton.1 new]
        exact before.sequence_lt e old
  | @delete s left c k _ done ih =>
    unfold Store.delete at done
    split at done
    · cases done
      exact ih.sublist List.filter_sublist
    · cases done

theorem issued_change (s : Store) (a : Change) :
    (s.change a).2.issued = s.issued + (s.change a).1.isCreation.toNat := by
  rcases s.change_cases a with ⟨e, same⟩ | ⟨o, i, -, -, done⟩ | ⟨c, k, -, -, done⟩
  · rw [same]
    rfl
  · rw [done]
    rfl
  · rw [done]
    rfl

theorem issued_run (s : Store) (changes : List Change) :
    (Change.run Store.change s changes).2.issued =
      s.issued + (Change.run Store.change s changes).1.countP Reply.isCreation := by
  induction changes generalizing s with
  | nil => rfl
  | cons a rest ih =>
    simp only [Change.run, List.countP_cons]
    rw [ih, issued_change]
    cases (s.change a).1.isCreation with
    | true => simp [Nat.add_assoc, Nat.add_comm 1]
    | false => simp

def Entry.word (e : Entry) : UInt64 := .ofNat e.sequence

def inOrder (entries : List Entry) : List Entry :=
  entries.mergeSort fun a b => decide (a.word ≤ b.word)

theorem word_le_word {a b : Entry} (small : a.sequence < 2 ^ 64) (small' : b.sequence < 2 ^ 64) :
    a.word ≤ b.word ↔ a.sequence ≤ b.sequence := by
  rw [UInt64.le_iff_toNat_le, Entry.word, Entry.word, UInt64.toNat_ofNat_of_lt' small,
    UInt64.toNat_ofNat_of_lt' small']

/-- As long as the numbers fit 64 bits, they give the entries in the order of their creation,
however the entries are enumerated. -/
theorem Reachable.inOrder_eq (reachable : s.Reachable) (few : s.issued ≤ 2 ^ 64)
    {entries : List Entry} (enumerated : entries.Perm s.entries) (keep : Entry → Bool) :
    inOrder (entries.filter keep) = s.entries.filter keep := by
  have small : ∀ e ∈ s.entries, e.sequence < 2 ^ 64 := fun e member =>
    Nat.lt_of_lt_of_le (reachable.sequence_lt e member) few
  have members : ∀ e ∈ s.entries.filter keep, e ∈ s.entries := fun e member =>
    (List.mem_filter.1 member).1
  have perm : (inOrder (entries.filter keep)).Perm (s.entries.filter keep) :=
    (List.mergeSort_perm _ _).trans (enumerated.filter keep)
  have ordered : (inOrder (entries.filter keep)).Pairwise fun a b => decide (a.word ≤ b.word) := by
    refine List.pairwise_mergeSort (fun a b c first second => ?_) (fun a b => ?_) _
    · simp only [decide_eq_true_iff] at first second ⊢
      exact UInt64.le_trans first second
    · simpa using UInt64.le_total a.word b.word
  have sorted : (inOrder (entries.filter keep)).Pairwise fun a b => a.word ≤ b.word :=
    ordered.imp fun less => by simpa using less
  have ascending : (s.entries.filter keep).Pairwise fun a b => a.word ≤ b.word := by
    refine (reachable.ascending.filter keep).imp_of_mem fun first second less => ?_
    exact (word_le_word (small _ (members _ first)) (small _ (members _ second))).2
      (Nat.le_of_lt less)
  refine perm.eq_of_pairwise (fun a b there here less more => ?_) sorted ascending
  -- entries of one number are one entry
  have stored := members a (perm.subset there)
  have stored' := members b here
  have same : a.sequence = b.sequence := Nat.le_antisymm
    ((word_le_word (small _ stored) (small _ stored')).1 less)
    ((word_le_word (small _ stored') (small _ stored)).1 more)
  have distinct : (s.entries.map (·.sequence)).Nodup :=
    List.pairwise_map.2 (reachable.ascending.imp Nat.ne_of_lt)
  exact List.inj_on_of_nodup_map distinct stored stored' same

def Wanted (c : Coordinates) (namespaceName : Option String) (selector : Selector) (o : Object) :
    Prop :=
  o.coordinates = c ∧ (∀ n ∈ namespaceName, o.namespaceName = n) ∧
    ∀ e ∈ selector.matchLabels.entries, o.metadata.labels.get? e.1 = some e.2

instance (c : Coordinates) (namespaceName : Option String) (selector : Selector) (o : Object) :
    Decidable (Wanted c namespaceName selector o) := inferInstanceAs (Decidable (_ ∧ _))

theorem Kept.get_eq (kept : s.Kept) (c : Coordinates) (k : ObjectKey) :
    s.get c k =
      match s.objects.find? fun o => decide (o.place = (c, k)) with
      | some o => .ok o
      | none => .error (.notFound c.kind k) := by
  have found : s.find? c k = s.objects.find? fun o => decide (o.place = (c, k)) := by
    rw [objects, List.find?_map, Store.find?]
    exact congrArg _ (List.find?_congr fun e member => kept.isAt_eq member c k)
  cases first : s.objects.find? fun o => decide (o.place = (c, k)) with
  | some o => simp only [get, found, first]
  | none => simp only [get, found, first]

theorem Kept.list_eq (kept : s.Kept) (c : Coordinates) (namespaceName : Option String)
    (selector : Selector) :
    s.list c namespaceName selector =
      s.objects.filter fun o => decide (Wanted c namespaceName selector o) := by
  rw [objects, List.filter_map, list]
  refine congrArg _ (List.filter_congr fun e member => ?_)
  obtain ⟨coordinates, key⟩ := Prod.mk.inj (kept.keyed e member)
  have namespaceKey : e.key.namespaceName = e.object.namespaceName := by
    rw [key]
    rfl
  have within : namespaceName.all (· = e.key.namespaceName) = true ↔
      ∀ n ∈ namespaceName, e.object.namespaceName = n := by
    rw [namespaceKey]
    cases namespaceName with
    | none => simp
    | some n => simpa using eq_comm
  have borne : selector.admits e.object.metadata.labels = true ↔
      ∀ l ∈ selector.matchLabels.entries, e.object.metadata.labels.get? l.1 = some l.2 := by
    simp [Selector.admits]
  rw [Bool.eq_iff_iff, Function.comp_apply, decide_eq_true_iff, Wanted, ← within, ← borne,
    Bool.and_eq_true, Bool.and_eq_true, decide_eq_true_iff, coordinates, and_assoc]

structure Mirrors (s : Store) (live : Succession) : Prop where
  objects : s.objects = live
  keyed : ∀ e ∈ s.entries, e.place = e.object.place
  distinct : s.places.Nodup
  ascending : s.entries.Pairwise fun a b => a.sequence < b.sequence
  below : ∀ e ∈ s.entries, e.sequence < s.issued
  enumerated : ∀ entries : List Entry, entries.Perm s.entries →
    ∀ keep, inOrder (entries.filter keep) = s.entries.filter keep
  order : s.places = live.places
  get : ∀ c k, s.get c k =
    match live.find? fun o => decide (o.place = (c, k)) with
    | some o => .ok o
    | none => .error (.notFound c.kind k)
  list : ∀ c namespaceName selector, s.list c namespaceName selector =
    live.filter fun o => decide (Wanted c namespaceName selector o)
  refused : ∀ a e, (s.change a).1 = .error e → (s.change a).2 = s
  recreated : ∀ o i, o.name ≠ "" → o.place ∈ s.places →
    (Change.run Store.change s
      [.delete o.coordinates (.ofObject o), .create o i]).2.places =
        s.places.filter (fun p => decide (p ≠ o.place)) ++ [o.place]

theorem places_without (s : Store) (c : Coordinates) (k : ObjectKey) :
    (s.without c k).places = s.places.filter fun p => decide (p ≠ (c, k)) := by
  simp only [places, without, List.filter_map]
  refine congrArg _ (List.filter_congr fun e _ => ?_)
  rw [Bool.eq_iff_iff, Bool.not_eq_true', ← Bool.not_eq_true, Entry.isAt_iff,
    Function.comp_apply, decide_eq_true_iff]

/-- What is deleted and created again comes last. -/
theorem places_recreated {o : Object} (named : o.name ≠ "") (there : o.place ∈ s.places)
    (i : Identity) :
    (Change.run Store.change s [.delete o.coordinates (.ofObject o), .create o i]).2.places =
      s.places.filter (fun p => decide (p ≠ o.place)) ++ [o.place] := by
  have gone : s.delete o.coordinates (.ofObject o) = .ok (s.without o.coordinates (.ofObject o)) :=
    delete_of_there there
  have left := places_without s o.coordinates (.ofObject o)
  have free : o.place ∉ (s.without o.coordinates (.ofObject o)).places := by
    rw [left]
    intro member
    exact of_decide_eq_true (List.mem_filter.1 member).2 rfl
  simp only [Change.run, change, gone, create_of_free i named free]
  rw [places, List.map_append, ← places, left]
  rfl

/-- As long as fewer than 2^64 creations are granted, a new store answers changes as a list of
objects does to which what is created is appended, and tells of that list in every way. -/
theorem behaves_as_list (changes : List Change)
    (few : (Change.run Succession.change [] changes).1.countP Reply.isCreation < 2 ^ 64) :
    (Change.run Store.change empty changes).1 = (Change.run Succession.change [] changes).1 ∧
      Mirrors (Change.run Store.change empty changes).2
        (Change.run Succession.change [] changes).2 := by
  obtain ⟨replies, objects⟩ := Reachable.empty.run_eq changes
  have new : empty.objects = [] := rfl
  rw [new] at replies objects
  have reachable := Reachable.empty.run changes
  have kept := reachable.kept
  have issued := issued_run empty changes
  have fits : (Change.run Store.change empty changes).2.issued ≤ 2 ^ 64 := by
    have start : empty.issued = 0 := rfl
    rw [issued, replies, start, Nat.zero_add]
    exact Nat.le_of_lt few
  refine ⟨replies, ?_⟩
  rw [← objects]
  exact {
    objects := rfl
    keyed := kept.keyed
    distinct := kept.distinct
    ascending := reachable.ascending
    below := reachable.sequence_lt
    enumerated := fun entries enumerated keep => reachable.inOrder_eq fits enumerated keep
    order := kept.places_objects.symm
    get := kept.get_eq
    list := kept.list_eq
    refused := fun a e => change_of_error
    recreated := fun o i named there => places_recreated named there i }

def sampleNamed (name : String) : Object :=
  .ofCoordinates .stack { Metadata.empty with name := name, namespaceName := "team-a" }

def sampleChanges : List Change :=
  let first := sampleNamed "first"
  let second := sampleNamed "second"
  let identity : Identity := Completion.sampleIdentities 0
  [.create first identity, .create second identity, .create second identity,
    .create (sampleNamed "") identity, .delete .stack ⟨"team-a", "absent"⟩,
    .delete .stack (.ofObject first), .create first identity]

theorem behaves_as_list_sample :
    (Change.run Succession.change [] sampleChanges).1.countP Reply.isCreation < 2 ^ 64 ∧
      (Change.run Store.change empty sampleChanges).2.places =
        [(sampleNamed "second").place, (sampleNamed "first").place] := by
  have few : (Change.run Succession.change [] sampleChanges).1.countP Reply.isCreation < 2 ^ 64 := by
    decide +kernel
  have order := (behaves_as_list sampleChanges few).2.order
  refine ⟨few, ?_⟩
  rw [order]
  decide +kernel

end Store

end PackageInstall
