import PackageInstall.Completion
import PackageInstall.Proofs.Cluster

/-!
Agendas: lists of acts on a cluster, done one after another up to the first that fails. Work that
performs an agenda does what its acts do, and fails where and as the agenda fails
(`Cluster.Performs`); work built from such pieces performs their agendas one after the other
(`Cluster.Performs.bind`).
-/

namespace PackageInstall

inductive Act where
  | create (o : Object) (told : StoreError → InstallError)
  | fetch (o : Object) (told : StoreError → InstallError)
  | refuse (error : InstallError)

abbrev Agenda : Type := List Act

namespace Cluster

def findReply (c : Cluster) (coordinates : Coordinates) (key : ObjectKey) :
    Except StoreError Object :=
  match c.failure? (.get coordinates key) with
  | some e => .error e
  | none => c.store.get coordinates key

def refusal? (c : Cluster) (o : Object) : Option StoreError :=
  match c.createReply o with
  | .ok _ => none
  | .error e => if e.isAlreadyExists then none else some e

end Cluster

namespace Act

def call? : Act → Option Call
  | create o _ => some (.create o.coordinates (.ofObject o))
  | fetch o _ => some (.get o.coordinates (.ofObject o))
  | refuse _ => none

def error? (c : Cluster) : Act → Option InstallError
  | create o told => (c.refusal? o).map told
  | fetch o told =>
    match c.findReply o.coordinates (.ofObject o) with
    | .ok _ => none
    | .error e => some (told e)
  | refuse e => some e

def after (c : Cluster) : Act → Cluster
  | create o _ => c.creating o
  | fetch o _ => c.entered (.get o.coordinates (.ofObject o))
  | refuse _ => c

def fetched? : Act → Option Object
  | fetch o _ => some o
  | _ => none

end Act

namespace Cluster

/-- The acts that are done: those up to the first that fails, and that one. -/
def performed (c : Cluster) : Agenda → Agenda
  | [] => []
  | a :: rest =>
    match a.error? c with
    | some _ => [a]
    | none => a :: performed (a.after c) rest

def agendaError? (c : Cluster) : Agenda → Option InstallError
  | [] => none
  | a :: rest =>
    match a.error? c with
    | some e => some e
    | none => agendaError? (a.after c) rest

def afterAgenda (c : Cluster) : Agenda → Cluster
  | [] => c
  | a :: rest =>
    match a.error? c with
    | some _ => a.after c
    | none => afterAgenda (a.after c) rest

variable {α β : Type}

theorem agendaError?_append (c : Cluster) (front back : Agenda) :
    c.agendaError? (front ++ back) =
      (c.agendaError? front).or ((c.afterAgenda front).agendaError? back) := by
  induction front generalizing c with
  | nil => rfl
  | cons a rest ih =>
    simp only [List.cons_append, agendaError?, afterAgenda]
    cases a.error? c with
    | some e => rfl
    | none => exact ih _

theorem afterAgenda_append (c : Cluster) (front back : Agenda) :
    c.afterAgenda (front ++ back) =
      match c.agendaError? front with
      | some _ => c.afterAgenda front
      | none => (c.afterAgenda front).afterAgenda back := by
  induction front generalizing c with
  | nil => rfl
  | cons a rest ih =>
    simp only [List.cons_append, agendaError?, afterAgenda]
    cases a.error? c with
    | some e => rfl
    | none => exact ih _

theorem after_journal (c : Cluster) (a : Act) :
    (a.after c).journal = c.journal ++ a.call?.toList := by
  cases a with
  | create o told => rfl
  | fetch o told => rfl
  | refuse e => exact (List.append_nil _).symm

theorem afterAgenda_journal (c : Cluster) (acts : Agenda) :
    (c.afterAgenda acts).journal = c.journal ++ (c.performed acts).filterMap Act.call? := by
  induction acts generalizing c with
  | nil => exact (List.append_nil _).symm
  | cons a rest ih =>
    simp only [afterAgenda, performed]
    cases a.error? c with
    | some e =>
      rw [after_journal]
      cases called : a.call? <;> simp [called]
    | none =>
      rw [ih, after_journal]
      cases called : a.call? <;> simp [called]

/-- Whether a call is made to fail, being the `n`-th. To be told that the object exists is no
failure of its creation. -/
def Fails (c : Cluster) (n : Nat) (call : Call) : Prop :=
  match call with
  | .openLog _ | .readLog _ => ∃ e, c.logFaults n call = some e
  | .create _ _ => ∃ e, c.faults n call = some (.fails e) ∧ e.isAlreadyExists = false
  | _ => ∃ e, c.faults n call = some (.fails e)

theorem error?_of_fails {c : Cluster} {a : Act} {call : Call} (called : a.call? = some call)
    (fails : c.Fails c.journal.length call) : a.error? c ≠ none := by
  cases a with
  | create o told =>
    cases called
    obtain ⟨e, fault, fresh⟩ := fails
    simp [Act.error?, refusal?, createReply, failure?, fault, fresh]
  | fetch o told =>
    cases called
    obtain ⟨e, fault⟩ := fails
    simp [Act.error?, findReply, failure?, fault]
  | refuse e => cases called

theorem after_fails (c : Cluster) (a : Act) : (a.after c).Fails = c.Fails := by
  cases a <;> rfl

theorem fails_last {c : Cluster} {acts : Agenda} {n : Nat} {call : Call}
    (late : c.journal.length ≤ n) (made : (c.afterAgenda acts).journal[n]? = some call)
    (fails : c.Fails n call) :
    n + 1 = (c.afterAgenda acts).journal.length ∧ c.agendaError? acts ≠ none := by
  induction acts generalizing c with
  | nil =>
    have unmade : c.journal[n]? = none := List.getElem?_eq_none late
    rw [show c.afterAgenda [] = c from rfl, unmade] at made
    cases made
  | cons a rest ih =>
    have journal := after_journal c a
    simp only [afterAgenda, agendaError?] at made ⊢
    cases failed : a.error? c with
    | some e =>
      simp only [failed] at made ⊢
      refine ⟨?_, nofun⟩
      have bound := (List.getElem?_eq_some_iff.1 made).1
      have few : a.call?.toList.length ≤ 1 := by cases a.call? <;> simp
      rw [journal, List.length_append] at bound ⊢
      omega
    | none =>
      simp only [failed] at made ⊢
      by_cases later : (a.after c).journal.length ≤ n
      · exact ih later made (by rwa [after_fails])
      · exfalso
        rw [afterAgenda_journal, List.getElem?_append_left (by omega), journal] at made
        cases called : a.call? with
        | none => simp [journal, called] at later; omega
        | some call' =>
          have here : n = c.journal.length := by
            simp [journal, called] at later
            omega
          subst here
          simp [called] at made
          exact error?_of_fails (called.trans (congrArg some made)) fails failed

theorem entries_grow_after (c : Cluster) (a : Act) :
    c.store.entries <+: (a.after c).store.entries := by
  cases a with
  | create o told =>
    simp only [Act.after, creating]
    split
    · exact List.prefix_rfl
    · exact Store.entries_prefix_absorb _ o
  | fetch o told => exact List.prefix_rfl
  | refuse e => exact List.prefix_rfl

theorem entries_grow_afterAgenda (c : Cluster) (acts : Agenda) :
    c.store.entries <+: (c.afterAgenda acts).store.entries := by
  induction acts generalizing c with
  | nil => exact List.prefix_rfl
  | cons a rest ih =>
    simp only [afterAgenda]
    cases a.error? c with
    | some e => exact entries_grow_after c a
    | none => exact (entries_grow_after c a).trans (ih _)

/-- A change of the cluster that makes no difference to acts. -/
structure Inert (f : Cluster → Cluster) : Prop where
  error? : ∀ c (a : Act), a.error? (f c) = a.error? c
  after : ∀ c (a : Act), a.after (f c) = f (a.after c)
  store : ∀ c, (f c).store = c.store

theorem inert_noting (notes : List Note) : Inert (noting · notes) :=
  ⟨fun _ a => by cases a <;> rfl, fun _ a => by cases a <;> rfl, fun _ => rfl⟩

theorem inert_logs (logs : LogBook) : Inert fun c => { c with logs := logs } :=
  ⟨fun _ a => by cases a <;> rfl, fun _ a => by cases a <;> rfl, fun _ => rfl⟩

namespace Inert

variable {f : Cluster → Cluster}

theorem comp {g : Cluster → Cluster} (inertG : Inert g) (inert : Inert f) :
    Inert fun c => g (f c) where
  error? c a := (inertG.error? (f c) a).trans (inert.error? c a)
  after c a := (inertG.after (f c) a).trans (congrArg g (inert.after c a))
  store c := (inertG.store (f c)).trans (inert.store c)

theorem performed (inert : Inert f) (c : Cluster) (acts : Agenda) :
    (f c).performed acts = c.performed acts := by
  induction acts generalizing c with
  | nil => rfl
  | cons a rest ih => simp only [Cluster.performed, inert.error?, inert.after, ih]

theorem agendaError? (inert : Inert f) (c : Cluster) (acts : Agenda) :
    (f c).agendaError? acts = c.agendaError? acts := by
  induction acts generalizing c with
  | nil => rfl
  | cons a rest ih => simp only [Cluster.agendaError?, inert.error?, inert.after, ih]

theorem afterAgenda (inert : Inert f) (c : Cluster) (acts : Agenda) :
    (f c).afterAgenda acts = f (c.afterAgenda acts) := by
  induction acts generalizing c with
  | nil => rfl
  | cons a rest ih =>
    simp only [Cluster.afterAgenda, inert.error?, inert.after, ih]
    cases a.error? c <;> rfl

end Inert

/-- Work that does what an agenda says, and answers something of the kind where nothing fails. -/
def Performs (c : Cluster) (work : Work InstallError α) (acts : Agenda) (answers : α → Prop) :
    Prop :=
  (∃ notes, (c.run work).2 = (c.afterAgenda acts).noting notes) ∧
    match c.agendaError? acts with
    | some e => (c.run work).1 = .error e
    | none => ∃ a, answers a ∧ (c.run work).1 = .ok a

namespace Performs

theorem pure (c : Cluster) {answers : α → Prop} {a : α} (h : answers a) :
    c.Performs (pure a) [] answers := ⟨⟨[], (noting_nil c).symm⟩, a, h, rfl⟩

theorem throw (c : Cluster) (e : InstallError) (rest : Agenda) {answers : α → Prop} :
    c.Performs (throw e) (.refuse e :: rest) answers := ⟨⟨[], (noting_nil c).symm⟩, rfl⟩

theorem note (c : Cluster) (n : Note) : c.Performs (note n) [] fun _ => True :=
  ⟨⟨[n], rfl⟩, (), trivial, rfl⟩

theorem imp {c : Cluster} {work : Work InstallError α} {acts : Agenda}
    {answers answers' : α → Prop} (done : c.Performs work acts answers)
    (weaker : ∀ a, c.agendaError? acts = none → answers a → answers' a) :
    c.Performs work acts answers' := by
  obtain ⟨left, answer⟩ := done
  refine ⟨left, ?_⟩
  cases failed : c.agendaError? acts with
  | some e => simpa only [failed] using answer
  | none =>
    simp only [failed] at answer
    obtain ⟨a, holds, answer⟩ := answer
    exact ⟨a, weaker a failed holds, answer⟩

theorem bind {c : Cluster} {work : Work InstallError α} {next : α → Work InstallError β}
    {front back : Agenda} {answers : α → Prop} {answers' : β → Prop}
    (first : c.Performs work front answers)
    (second : ∀ a notes, answers a → (c.agendaError? front = none) →
      ((c.afterAgenda front).noting notes).Performs (next a) back answers') :
    c.Performs (work >>= next) (front ++ back) answers' := by
  obtain ⟨⟨notes, left⟩, answer⟩ := first
  unfold Performs
  rw [run_bind, agendaError?_append, afterAgenda_append]
  cases failed : c.agendaError? front with
  | some e =>
    simp only [failed] at answer
    have stopped : c.run work = (.error e, (c.afterAgenda front).noting notes) :=
      Prod.ext answer left
    rw [stopped]
    exact ⟨⟨notes, rfl⟩, rfl⟩
  | none =>
    simp only [failed] at answer
    obtain ⟨a, holds, answer⟩ := answer
    have passed : c.run work = (.ok a, (c.afterAgenda front).noting notes) :=
      Prod.ext answer left
    obtain ⟨⟨more, left⟩, answer'⟩ := second a notes holds failed
    rw [(inert_noting notes).afterAgenda, noting_noting] at left
    rw [(inert_noting notes).agendaError?] at answer'
    rw [passed]
    exact ⟨⟨_, left⟩, answer'⟩

end Performs

end Cluster

end PackageInstall
