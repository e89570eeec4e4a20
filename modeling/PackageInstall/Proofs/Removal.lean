import PackageInstall.Proofs.Deletion
import PackageInstall.Sweep

namespace PackageInstall.Sweep

open Cluster

variable {α β : Type} {request : InstallRequest}

/-- The error with which a sweep stops at an answer. What is gone already stops no sweep. -/
def stop? (request : InstallRequest) : Answer → Option InstallError
  | (.listing t _, some e) => some (.sweep t.kind request.name e)
  | (.deletion t _, some e) => if e.isNotFound then none else some (.sweep t.kind request.name e)
  | (_, none) => none

def halt? (request : InstallRequest) (answers : List Answer) : Option InstallError :=
  answers.findSome? (stop? request)

theorem halt?_of_passed {c : Cluster} {front : List Step}
    (passed : halt? request (c.answers front) = none) (back : List Step) :
    halt? request (c.answers (front ++ back)) =
      halt? request ((c.afterSteps front).answers back) := by
  rw [halt?, answers_append, List.findSome?_append, ← halt?, passed, Option.none_or]
  rfl

structure Takes (request : InstallRequest) (c : Cluster) (work : Work InstallError α)
    (steps : List Step) (value : α) : Prop where
  left : ∃ notes, (c.run work).2 = (c.afterSteps steps).noting notes
  passed : ∀ a ∈ (c.answers steps).dropLast, stop? request a = none
  outcome : (c.run work).1 =
    match halt? request (c.answers steps) with
    | some e => .error e
    | none => .ok value

namespace Takes

variable {c : Cluster} {work : Work InstallError α} {steps : List Step} {value : α}

theorem pure (c : Cluster) (value : α) : Takes request c (pure value) [] value :=
  ⟨⟨[], (noting_nil c).symm⟩, fun _ member => absurd member List.not_mem_nil, rfl⟩

theorem note (c : Cluster) (n : Note) : Takes request c (note n) [] () :=
  ⟨⟨[n], rfl⟩, fun _ member => absurd member List.not_mem_nil, rfl⟩

theorem store (takes : Takes request c work steps value) :
    (c.run work).2.store = (c.afterSteps steps).store := by
  obtain ⟨notes, left⟩ := takes.left
  rw [left]
  rfl

theorem answers (takes : Takes request c work steps value) (more : List Step) :
    (c.run work).2.answers more = (c.afterSteps steps).answers more := by
  obtain ⟨notes, left⟩ := takes.left
  rw [left, answers_noting]

theorem store_after (takes : Takes request c work steps value) (more : List Step) :
    ((c.run work).2.afterSteps more).store = ((c.afterSteps steps).afterSteps more).store := by
  obtain ⟨notes, left⟩ := takes.left
  rw [left, afterSteps_noting]
  rfl

theorem bind_stopped (takes : Takes request c work steps value) {e : InstallError}
    (stopped : halt? request (c.answers steps) = some e) (next : α → Work InstallError β)
    (other : β) : Takes request c (work >>= next) steps other := by
  obtain ⟨notes, left⟩ := takes.left
  have outcome := takes.outcome
  simp only [stopped] at outcome
  have failed : c.run work = (.error e, (c.afterSteps steps).noting notes) :=
    Prod.ext outcome left
  refine ⟨⟨notes, ?_⟩, takes.passed, ?_⟩
  · rw [run_bind, failed]
  · rw [run_bind, failed, stopped]

theorem bind {front back : List Step} {next : α → Work InstallError β} {last : β}
    (first : Takes request c work front value)
    (through : halt? request (c.answers front) = none)
    (second : Takes request (c.run work).2 (next value) back last) :
    Takes request c (work >>= next) (front ++ back) last := by
  obtain ⟨notes, left⟩ := first.left
  have outcome := first.outcome
  simp only [through] at outcome
  have passed : c.run work = (.ok value, (c.afterSteps front).noting notes) :=
    Prod.ext outcome left
  rw [left] at second
  obtain ⟨⟨more, left'⟩, passed', outcome'⟩ := second
  rw [afterSteps_noting, noting_noting] at left'
  rw [answers_noting] at passed' outcome'
  constructor
  · refine ⟨notes ++ more, ?_⟩
    rw [run_bind, passed, afterSteps_append]
    exact left'
  · intro a member
    have early := List.findSome?_eq_none_iff.1 through
    rw [answers_append, List.dropLast_append] at member
    split at member
    · exact early a (List.dropLast_subset _ member)
    · rcases List.mem_append.1 member with first | later
      · exact early a first
      · exact passed' a later
  · rw [run_bind, passed, halt?_of_passed through]
    exact outcome'

end Takes

theorem run_remove (c : Cluster) (t : Coordinates) (o : Object) :
    ∃ notes, c.run (remove t o) =
      (match c.deleteError? t (.ofObject o) with
        | none => .ok true
        | some e => if e.isNotFound then .ok false else .error e,
      (c.deleting t (.ofObject o)).noting notes) := by
  unfold remove
  rw [run_tryCatch, run_bind, run_delete]
  cases c.deleteError? t (.ofObject o) with
  | none => exact ⟨[], by rw [noting_nil]; rfl⟩
  | some e =>
    cases gone : e.isNotFound with
    | false => exact ⟨[], by simp only [gone, noting_nil]; rfl⟩
    | true => exact ⟨[.alreadyRemoved t.kind o.name], by simp only [gone]; rfl⟩

def told (request : InstallRequest) (t : Coordinates) : StoreError → InstallError :=
  .sweep t.kind request.name

theorem takes_remove (request : InstallRequest) (c : Cluster) (t : Coordinates) (o : Object) :
    Takes request c (ExceptT.adapt (told request t) (remove t o)) [.deletion t (.ofObject o)]
      (c.deleteError? t (.ofObject o)).isNone := by
  obtain ⟨notes, ran⟩ := run_remove c t o
  refine ⟨⟨notes, ?_⟩, fun _ member => absurd member List.not_mem_nil, ?_⟩
  · rw [run_adapt, ran]
    rfl
  · rw [run_adapt, ran]
    simp only [answers, Step.error?, halt?, List.findSome?_cons, stop?]
    cases c.deleteError? t (.ofObject o) with
    | none => rfl
    | some e => cases gone : e.isNotFound <;> simp only [gone] <;> rfl

theorem takes_list (request : InstallRequest) (c : Cluster) (t : Coordinates)
    (selector : Selector) :
    Takes request c (ExceptT.adapt (told request t) (list t none selector)) [.listing t selector]
      (c.store.list t none selector) := by
  refine ⟨⟨[], ?_⟩, fun _ member => absurd member List.not_mem_nil, ?_⟩
  · rw [run_adapt, run_list, noting_nil]
    rfl
  · rw [run_adapt, run_list]
    simp only [answers, Step.error?, halt?, List.findSome?_cons, stop?]
    cases c.failure? (.list t none selector) <;> rfl

structure Follows (request : InstallRequest) (c : Cluster) (steps plan : List Step) : Prop where
  front : steps <+: plan
  whole : halt? request (c.answers steps) = none → steps = plan

theorem Follows.stopped {c : Cluster} {s : Step} {e : InstallError}
    (halts : halt? request (c.answers [s]) = some e) (plan : List Step) :
    Follows request c [s] (s :: plan) where
  front := List.prefix_append [s] plan
  whole through := by
    rw [halts] at through
    cases through

theorem Follows.cons {c : Cluster} {s : Step} {steps plan : List Step}
    (passes : halt? request (c.answers [s]) = none)
    (rest : Follows request (s.after c) steps plan) :
    Follows request c (s :: steps) (s :: plan) where
  front := List.cons_prefix_cons.2 ⟨rfl, rest.front⟩
  whole through := by
    have later : halt? request ((s.after c).answers steps) = none :=
      (halt?_of_passed passes steps).symm.trans through
    rw [rest.whole later]

theorem Takes.follows {c : Cluster} {work : Work InstallError α} {steps back plan : List Step}
    {value : α} (takes : Takes request c work steps value)
    (follows : Follows request (c.run work).2 back plan) :
    Follows request (c.afterSteps steps) back plan where
  front := follows.front
  whole := by
    rw [← takes.answers]
    exact follows.whole

theorem countP_deletion (c : Cluster) (t : Coordinates) (k : ObjectKey) (rest : List Step) :
    (c.answers (.deletion t k :: rest)).countP Answer.granted =
      (c.deleteError? t k).isNone.toNat +
        ((c.deleting t k).answers rest).countP Answer.granted := by
  have one : (if Answer.granted (.deletion t k, c.deleteError? t k) then 1 else 0) =
      (c.deleteError? t k).isNone.toNat := by
    cases c.deleteError? t k <;> rfl
  rw [answers, List.countP_cons, Nat.add_comm]
  exact congrArg (· + _) one

def deletions (t : Coordinates) (objects : List Object) : List Step :=
  objects.map fun o => .deletion t (.ofObject o)

theorem takes_removeAll (request : InstallRequest) (c : Cluster) (t : Coordinates)
    (objects : List Object) (deleted : Nat) :
    ∃ steps, Takes request c (ExceptT.adapt (told request t) (removeAll t objects deleted)) steps
        (deleted + (c.answers steps).countP Answer.granted) ∧
      Follows request c steps (deletions t objects) := by
  induction objects generalizing c deleted with
  | nil => exact ⟨[], Takes.pure c deleted, List.nil_prefix, fun _ => rfl⟩
  | cons o rest ih =>
    have first := takes_remove request c t o
    rw [removeAll, adapt_bind]
    cases stopped : halt? request (c.answers [.deletion t (.ofObject o)]) with
    | some e => exact ⟨_, first.bind_stopped stopped _ _, .stopped stopped _⟩
    | none =>
      let there := (c.deleteError? t (.ofObject o)).isNone
      have next : ExceptT.adapt (told request t)
          (if there then removeAll t rest (deleted + 1) else removeAll t rest deleted) =
          ExceptT.adapt (told request t) (removeAll t rest (deleted + there.toNat)) := by
        cases there <;> rfl
      obtain ⟨steps, takes, follows⟩ :=
        ih (c.run (ExceptT.adapt (told request t) (remove t o))).2 (deleted + there.toNat)
      rw [first.answers, Nat.add_assoc, ← next] at takes
      refine ⟨.deletion t (.ofObject o) :: steps, ?_, .cons stopped (first.follows follows)⟩
      rw [countP_deletion]
      exact first.bind stopped takes

def planned (request : InstallRequest) (s : Store) (t : Coordinates) : List Step :=
  .listing t (Provenance.ofParent request).selector ::
    deletions t (s.list t none (Provenance.ofParent request).selector)

theorem takes_sweepType (request : InstallRequest) (c : Cluster) (t : Coordinates)
    (deleted : Nat) :
    ∃ steps, Takes request c (sweepType request t deleted) steps
        (deleted + (c.answers steps).countP Answer.granted) ∧
      Follows request c steps (planned request c.store t) := by
  let selector := (Provenance.ofParent request).selector
  have first := takes_list request c t selector
  have work : sweepType request t deleted =
      ExceptT.adapt (told request t) (list t none selector) >>= fun objects =>
        ExceptT.adapt (told request t) (removeAll t objects deleted) := adapt_bind _ _ _
  rw [work]
  cases stopped : halt? request (c.answers [.listing t selector]) with
  | some e => exact ⟨_, first.bind_stopped stopped _ _, .stopped stopped _⟩
  | none =>
    obtain ⟨steps, takes, follows⟩ := takes_removeAll request
      (c.run (ExceptT.adapt (told request t) (list t none selector))).2 t
      (c.store.list t none selector) deleted
    rw [first.answers] at takes
    exact ⟨.listing t selector :: steps, first.bind stopped takes,
      .cons stopped (first.follows follows)⟩

end PackageInstall.Sweep
