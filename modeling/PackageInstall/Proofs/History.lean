import Mathlib.Data.List.Nodup
import PackageInstall.Proofs.Agenda

namespace PackageInstall

namespace Store

/-- The stores that creations and deletions make of the empty one. -/
inductive Reachable : Store → Prop where
  | empty : Reachable empty
  | create {s created : Store} {o stored : Object} {i : Identity} :
    Reachable s → s.create o i = .ok (stored, created) → Reachable created
  | delete {s left : Store} {c : Coordinates} {k : ObjectKey} :
    Reachable s → s.delete c k = .ok left → Reachable left

structure Kept (s : Store) : Prop where
  keyed : ∀ e ∈ s.entries, e.place = e.object.place
  distinct : s.places.Nodup

theorem without_of_absent {s : Store} {c : Coordinates} {k : ObjectKey}
    (absent : (c, k) ∉ s.places) : s.without c k = s := by
  have all : s.entries.filter (fun e => !e.isAt c k) = s.entries := by
    refine List.filter_eq_self.2 fun e member => ?_
    rw [Bool.not_eq_true', ← Bool.not_eq_true, Entry.isAt_iff]
    intro here
    exact absent (List.mem_map.2 ⟨e, member, here⟩)
  simp only [without, all]

theorem delete_of_there {s : Store} {c : Coordinates} {k : ObjectKey} (there : (c, k) ∈ s.places) :
    s.delete c k = .ok (s.without c k) := by
  simp [delete, find?_isSome_iff.2 there]

theorem delete_of_absent {s : Store} {c : Coordinates} {k : ObjectKey}
    (absent : (c, k) ∉ s.places) : s.delete c k = .error (.notFound c.kind k) := by
  simp [delete, find?_eq_none_iff.2 absent]

theorem Reachable.without {s : Store} (reachable : s.Reachable) (c : Coordinates) (k : ObjectKey) :
    (s.without c k).Reachable := by
  by_cases there : (c, k) ∈ s.places
  · exact reachable.delete (delete_of_there there)
  · rwa [without_of_absent there]

theorem Reachable.absorb {s : Store} (reachable : s.Reachable) (identities : Nat → Identity)
    (o : Object) : (s.absorb identities o).Reachable := by
  unfold Store.absorb
  cases created : s.create o (identities s.issued) with
  | ok result => exact reachable.create created
  | error e => exact reachable

theorem Reachable.absorbAll {s : Store} (reachable : s.Reachable) (identities : Nat → Identity)
    (os : List Object) : (s.absorbAll identities os).Reachable := by
  induction os generalizing s with
  | nil => exact reachable
  | cons o rest ih => exact ih (reachable.absorb identities o)

namespace Kept

variable {s : Store}

theorem sublist (kept : s.Kept) {t : Store} (fewer : t.entries.Sublist s.entries) : t.Kept where
  keyed e member := kept.keyed e (fewer.subset member)
  distinct := kept.distinct.sublist (fewer.map _)

theorem create (kept : s.Kept) {created : Store} {o stored : Object} {i : Identity}
    (done : s.create o i = .ok (stored, created)) : created.Kept := by
  by_cases nameless : o.name = ""
  · rw [create_of_nameless i nameless] at done
    cases done
  · by_cases taken : o.place ∈ s.places
    · rw [create_of_taken i nameless taken] at done
      cases done
    · rw [create_of_free i nameless taken] at done
      cases done
      constructor
      · intro e member
        rcases List.mem_append.1 member with old | new
        · exact kept.keyed e old
        · rw [List.mem_singleton.1 new]
          rfl
      · have places : (s.entries ++ [entryOf o i s.issued]).map Entry.place =
            s.places ++ [o.place] := by
          rw [List.map_append]
          rfl
        rw [Store.places, places]
        refine List.nodup_append.2 ⟨kept.distinct, List.nodup_singleton _, ?_⟩
        intro p old q new same
        exact taken (List.mem_singleton.1 new ▸ same ▸ old)

theorem eq_of_place (kept : s.Kept) {e e' : Entry} (member : e ∈ s.entries)
    (member' : e' ∈ s.entries) (same : e.place = e'.place) : e = e' :=
  List.inj_on_of_nodup_map kept.distinct member member' same

theorem place_of_find? (kept : s.Kept) {c : Coordinates} {k : ObjectKey} {o : Object}
    (found : s.find? c k = some o) : o.place = (c, k) := by
  obtain ⟨e, first, rfl⟩ := Option.map_eq_some_iff.1 found
  have found : e.isAt c k = true := by simpa using List.find?_some first
  have here : e.place = (c, k) := Entry.isAt_iff.1 found
  rw [← kept.keyed e (List.mem_of_find?_eq_some first), here]

end Kept

theorem Reachable.kept {s : Store} (reachable : s.Reachable) : s.Kept := by
  induction reachable with
  | empty => exact ⟨fun e member => absurd member List.not_mem_nil, List.nodup_nil⟩
  | create _ done ih => exact ih.create done
  | @delete s left c k _ done ih =>
    have fewer : left.entries.Sublist s.entries := by
      unfold Store.delete at done
      split at done
      · cases done
        exact List.filter_sublist
      · cases done
    exact ih.sublist fewer

end Store

namespace Cluster

theorem reachable_after {c : Cluster} (reachable : c.store.Reachable) (a : Act) :
    (a.after c).store.Reachable := by
  cases a with
  | create o told =>
    simp only [Act.after, creating]
    split
    · exact reachable
    · exact reachable.absorb _ _
  | fetch o told => exact reachable
  | refuse e => exact reachable

theorem reachable_afterAgenda {c : Cluster} (reachable : c.store.Reachable) (acts : Agenda) :
    (c.afterAgenda acts).store.Reachable := by
  induction acts generalizing c with
  | nil => exact reachable
  | cons a rest ih =>
    simp only [afterAgenda]
    cases a.error? c with
    | some e => exact reachable_after reachable a
    | none => exact ih (reachable_after reachable a)

end Cluster

end PackageInstall
