import PackageInstall.Proofs.Cluster
import PackageInstall.Proofs.History
import PackageInstall.Proofs.Plan

namespace PackageInstall

namespace Store

theorem mem_without {s : Store} {t : Coordinates} {k : ObjectKey} {e : Entry} :
    e ∈ (s.without t k).entries ↔ e ∈ s.entries ∧ e.place ≠ (t, k) := by
  simp only [without, List.mem_filter, Bool.not_eq_true', ← Bool.not_eq_true, Entry.isAt_iff, ne_eq]

theorem notMem_places_without (s : Store) (t : Coordinates) (k : ObjectKey) :
    (t, k) ∉ (s.without t k).places := by
  intro there
  obtain ⟨e, member, here⟩ := List.mem_map.1 there
  exact (mem_without.1 member).2 here

theorem size_without {s : Store} (kept : s.Kept) {t : Coordinates} {k : ObjectKey}
    (there : (t, k) ∈ s.places) : (s.without t k).size + 1 = s.size := by
  have once : s.entries.countP (·.isAt t k) = 1 := by
    rw [← List.count_eq_one_of_mem kept.distinct there, Store.places, List.count, List.countP_map]
    refine List.countP_congr fun e _ => ?_
    simp [Entry.isAt_iff]
  have parts := List.length_eq_countP_add_countP (fun e : Entry => e.isAt t k) (l := s.entries)
  have left : (s.without t k).size = s.entries.countP fun e => !e.isAt t k :=
    (List.countP_eq_length_filter ..).symm
  simp only [Bool.not_eq_true, Bool.decide_eq_false] at parts
  rw [left, Store.size, parts, once, Nat.add_comm]

end Store

namespace Cluster

def deleteError? (c : Cluster) (t : Coordinates) (k : ObjectKey) : Option StoreError :=
  match c.faults c.journal.length (.delete t k) with
  | some (.fails e) => some e
  | some .vanishes => some (.notFound t.kind k)
  | none => if (t, k) ∈ c.store.places then none else some (.notFound t.kind k)

def deleting (c : Cluster) (t : Coordinates) (k : ObjectKey) : Cluster :=
  { c.entered (.delete t k) with
    store := match c.failure? (.delete t k) with
      | some _ => c.store
      | none => c.store.without t k }

theorem run_delete (c : Cluster) (t : Coordinates) (k : ObjectKey) :
    c.run (delete t k) =
      (match c.deleteError? t k with
        | some e => .error e
        | none => .ok (),
      c.deleting t k) := by
  have same : (c.entered (.delete t k)).store = c.store := rfl
  unfold delete deleteError? deleting failure?
  rw [run_bind, run_faultOf]
  rcases c.faults c.journal.length (.delete t k) with _ | (e | _)
  case none =>
    by_cases there : (t, k) ∈ c.store.places
    · simp only [run_bind, run_getThe, same, Store.delete_of_there there, if_pos there]
      rfl
    · simp only [run_bind, run_getThe, same, Store.delete_of_absent there, if_neg there,
        Store.without_of_absent there]
      rfl
  all_goals rfl

end Cluster

open Cluster

inductive Step where
  | listing (t : Coordinates) (selector : Selector)
  | deletion (t : Coordinates) (k : ObjectKey)

abbrev Answer : Type := Step × Option StoreError

def Answer.granted : Answer → Bool
  | (.deletion _ _, none) => true
  | _ => false

namespace Step

def call : Step → Call
  | listing t selector => .list t none selector
  | deletion t k => .delete t k

def error? (c : Cluster) : Step → Option StoreError
  | listing t selector => c.failure? (.list t none selector)
  | deletion t k => c.deleteError? t k

def after (c : Cluster) : Step → Cluster
  | listing t selector => c.entered (.list t none selector)
  | deletion t k => c.deleting t k

theorem after_journal (c : Cluster) (s : Step) : (s.after c).journal = c.journal ++ [s.call] := by
  cases s <;> rfl

theorem after_faults (c : Cluster) (s : Step) : (s.after c).faults = c.faults := by
  cases s <;> rfl

theorem after_issued (c : Cluster) (s : Step) : (s.after c).store.issued = c.store.issued := by
  cases s with
  | listing t selector => rfl
  | deletion t k =>
    simp only [after, deleting]
    split <;> rfl

theorem after_noting (c : Cluster) (notes : List Note) (s : Step) :
    s.after (c.noting notes) = (s.after c).noting notes := by
  cases s <;> rfl

theorem error?_noting (c : Cluster) (notes : List Note) (s : Step) :
    s.error? (c.noting notes) = s.error? c := by
  cases s <;> rfl

theorem entries_after (c : Cluster) (s : Step) :
    ∃ keep : Store.Entry → Bool, (s.after c).store.entries = c.store.entries.filter keep ∧
      ∀ e, (∀ t k, s = deletion t k → e.place ≠ (t, k)) → keep e = true := by
  have unchanged : ∃ keep : Store.Entry → Bool, c.store.entries = c.store.entries.filter keep ∧
      ∀ e, (∀ t k, s = deletion t k → e.place ≠ (t, k)) → keep e = true :=
    ⟨fun _ => true, (List.filter_true _).symm, fun _ _ => rfl⟩
  cases s with
  | listing t selector => exact unchanged
  | deletion t k =>
    simp only [after, deleting]
    split
    · exact unchanged
    · refine ⟨fun e => !e.isAt t k, rfl, fun e elsewhere => ?_⟩
      rw [Bool.not_eq_true', ← Bool.not_eq_true, Store.Entry.isAt_iff]
      exact elsewhere t k rfl

end Step

namespace Cluster

def afterSteps (c : Cluster) : List Step → Cluster
  | [] => c
  | s :: rest => (s.after c).afterSteps rest

def answers (c : Cluster) : List Step → List Answer
  | [] => []
  | s :: rest => (s, s.error? c) :: (s.after c).answers rest

theorem afterSteps_append (c : Cluster) (front back : List Step) :
    c.afterSteps (front ++ back) = (c.afterSteps front).afterSteps back := by
  induction front generalizing c with
  | nil => rfl
  | cons s rest ih => exact ih (s.after c)

theorem answers_append (c : Cluster) (front back : List Step) :
    c.answers (front ++ back) = c.answers front ++ (c.afterSteps front).answers back := by
  induction front generalizing c with
  | nil => rfl
  | cons s rest ih => exact congrArg _ (ih (s.after c))

theorem afterSteps_noting (c : Cluster) (notes : List Note) (steps : List Step) :
    (c.noting notes).afterSteps steps = (c.afterSteps steps).noting notes := by
  induction steps generalizing c with
  | nil => rfl
  | cons s rest ih => simp only [afterSteps, Step.after_noting, ih]

theorem answers_noting (c : Cluster) (notes : List Note) (steps : List Step) :
    (c.noting notes).answers steps = c.answers steps := by
  induction steps generalizing c with
  | nil => rfl
  | cons s rest ih => simp only [answers, Step.after_noting, Step.error?_noting, ih]

theorem afterSteps_journal (c : Cluster) (steps : List Step) :
    (c.afterSteps steps).journal = c.journal ++ steps.map Step.call := by
  induction steps generalizing c with
  | nil => exact (List.append_nil _).symm
  | cons s rest ih => simp [afterSteps, ih, Step.after_journal]

theorem afterSteps_issued (c : Cluster) (steps : List Step) :
    (c.afterSteps steps).store.issued = c.store.issued := by
  induction steps generalizing c with
  | nil => rfl
  | cons s rest ih => exact (ih _).trans (s.after_issued c)

theorem map_fst_answers (c : Cluster) (steps : List Step) :
    (c.answers steps).map Prod.fst = steps := by
  induction steps generalizing c with
  | nil => rfl
  | cons s rest ih => exact congrArg _ (ih (s.after c))

theorem exists_answer {c : Cluster} {steps : List Step} {s : Step} (member : s ∈ steps) :
    ∃ e?, (s, e?) ∈ c.answers steps := by
  rw [← map_fst_answers c steps] at member
  obtain ⟨⟨_, e?⟩, answered, rfl⟩ := List.mem_map.1 member
  exact ⟨e?, answered⟩

theorem entries_afterSteps (c : Cluster) (steps : List Step) :
    ∃ keep : Store.Entry → Bool,
      (c.afterSteps steps).store.entries = c.store.entries.filter keep ∧
      ∀ e, (∀ t k, .deletion t k ∈ steps → e.place ≠ (t, k)) → keep e = true := by
  induction steps generalizing c with
  | nil => exact ⟨fun _ => true, (List.filter_true _).symm, fun _ _ => rfl⟩
  | cons s rest ih =>
    obtain ⟨keep, first, kept⟩ := s.entries_after c
    obtain ⟨keep', later, kept'⟩ := ih (s.after c)
    refine ⟨fun e => keep e && keep' e, ?_, fun e elsewhere => ?_⟩
    · rw [afterSteps, later, first, List.filter_filter]
      simp only [Bool.and_comm]
    · rw [Bool.and_eq_true]
      refine ⟨kept e fun t k same => elsewhere t k ?_, kept' e fun t k member => elsewhere t k ?_⟩
      · rw [same]
        exact List.mem_cons_self
      · exact List.mem_cons_of_mem _ member

theorem sublist_afterSteps (c : Cluster) (steps : List Step) :
    (c.afterSteps steps).store.entries.Sublist c.store.entries := by
  obtain ⟨keep, left, -⟩ := entries_afterSteps c steps
  rw [left]
  exact List.filter_sublist

theorem deleteError?_of_failure {c : Cluster} {t : Coordinates} {k : ObjectKey} {e : StoreError}
    (fails : c.failure? (.delete t k) = some e) :
    c.faults c.journal.length (.delete t k) = some (.fails e) ∧ c.deleteError? t k = some e := by
  unfold failure? at fails
  split at fails
  · rename_i fault
    obtain rfl := Option.some_inj.1 fails
    exact ⟨fault, by simp only [deleteError?, fault]⟩
  · cases fails

theorem gone_or_fails {c : Cluster} {steps : List Step} {t : Coordinates} {k : ObjectKey}
    {e? : Option StoreError} (answered : (.deletion t k, e?) ∈ c.answers steps) :
    (t, k) ∉ (c.afterSteps steps).store.places ∨
      ∃ n e, c.faults n (.delete t k) = some (.fails e) ∧ e? = some e := by
  induction steps generalizing c with
  | nil => cases answered
  | cons s rest ih =>
    rcases List.mem_cons.1 answered with here | later
    · obtain ⟨rfl, rfl⟩ := Prod.mk.inj here
      cases fails : c.failure? (.delete t k) with
      | some e => exact .inr ⟨_, e, deleteError?_of_failure fails⟩
      | none =>
        left
        intro there
        have still : (t, k) ∈ (c.deleting t k).store.places :=
          ((sublist_afterSteps (c.deleting t k) rest).map Store.Entry.place).subset there
        simp only [deleting, fails] at still
        exact Store.notMem_places_without _ _ _ still
    · have moved := ih later
      rwa [Step.after_faults] at moved

theorem kept_afterSteps {c : Cluster} (kept : c.store.Kept) (steps : List Step) :
    (c.afterSteps steps).store.Kept := kept.sublist (sublist_afterSteps c steps)

namespace Calm

variable {c : Cluster}

theorem afterStep (calm : c.Calm) (s : Step) : (s.after c).Calm := by
  cases s <;> exact ⟨calm.faults, calm.logFaults⟩

theorem deleteError?_eq (calm : c.Calm) (t : Coordinates) (k : ObjectKey) :
    c.deleteError? t k =
      if (t, k) ∈ c.store.places then none else some (.notFound t.kind k) := by
  simp only [deleteError?, calm.faults]

theorem deleting_store (calm : c.Calm) (t : Coordinates) (k : ObjectKey) :
    (c.deleting t k).store = c.store.without t k := by
  simp only [deleting, calm.failure?_eq]

theorem gone (calm : c.Calm) {steps : List Step} {t : Coordinates} {k : ObjectKey}
    (member : .deletion t k ∈ steps) : (t, k) ∉ (c.afterSteps steps).store.places := by
  obtain ⟨e?, answered⟩ := exists_answer (c := c) member
  rcases gone_or_fails answered with gone | ⟨n, e, fault, -⟩
  · exact gone
  · rw [calm.faults] at fault
    cases fault

theorem size_after (calm : c.Calm) (kept : c.store.Kept) (s : Step) :
    (if Answer.granted (s, s.error? c) then 1 else 0) + (s.after c).store.size = c.store.size := by
  cases s with
  | listing t selector => exact Nat.zero_add _
  | deletion t k =>
    simp only [Step.error?, calm.deleteError?_eq, Step.after, calm.deleting_store]
    by_cases there : (t, k) ∈ c.store.places
    · rw [if_pos there, ← Store.size_without kept there, Nat.add_comm]
      rfl
    · rw [if_neg there, Store.without_of_absent there]
      exact Nat.zero_add _

theorem size_afterSteps (calm : c.Calm) (kept : c.store.Kept) (steps : List Step) :
    (c.answers steps).countP Answer.granted + (c.afterSteps steps).store.size = c.store.size := by
  induction steps generalizing c with
  | nil => exact Nat.zero_add _
  | cons s rest ih =>
    have one := calm.size_after kept s
    have others := ih (calm.afterStep s) (kept_afterSteps kept [s])
    simp only [answers, afterSteps, List.countP_cons]
    omega

end Calm

end Cluster

end PackageInstall
