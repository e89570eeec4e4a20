import PackageInstall.Cluster
import PackageInstall.Proofs.Resource
import PackageInstall.Proofs.Store

namespace PackageInstall.Cluster

variable {ε ε' α β : Type}

def run (c : Cluster) (work : Work ε α) : Except ε α × Cluster := (ExceptT.run work).run c

theorem run_bind (c : Cluster) (work : Work ε α) (next : α → Work ε β) :
    c.run (work >>= next) =
      match c.run work with
      | (.ok a, after) => after.run (next a)
      | (.error e, after) => (.error e, after) := by
  unfold run ExceptT.run StateT.run
  simp only [bind, ExceptT.bind, ExceptT.mk, StateT.bind]
  cases work c with
  | mk answer after => cases answer <;> rfl

theorem run_tryCatch (c : Cluster) (work : Work ε α) (handler : ε → Work ε α) :
    c.run (tryCatch work handler) =
      match c.run work with
      | (.ok a, after) => (.ok a, after)
      | (.error e, after) => after.run (handler e) := by
  unfold run ExceptT.run StateT.run
  simp only [tryCatch, tryCatchThe, MonadExceptOf.tryCatch, ExceptT.tryCatch, ExceptT.mk, bind,
    StateT.bind]
  cases work c with
  | mk answer after => cases answer <;> rfl

theorem run_adapt (c : Cluster) (told : ε → ε') (work : Work ε α) :
    c.run (ExceptT.adapt told work) = ((c.run work).1.mapError told, (c.run work).2) := rfl

theorem work_ext {work work' : Work ε α} (same : ∀ c : Cluster, c.run work = c.run work') :
    work = work' := funext same

theorem adapt_bind (told : ε → ε') (work : Work ε α) (next : α → Work ε β) :
    ExceptT.adapt told (work >>= next) =
      ExceptT.adapt told work >>= fun a => (ExceptT.adapt told (next a) : Work ε' β) := by
  refine work_ext fun c => ?_
  rw [run_adapt, run_bind, run_bind, run_adapt]
  rcases c.run work with ⟨_ | a, after⟩
  · rfl
  · exact (run_adapt after told (next a)).symm

def noting (c : Cluster) (notes : List Note) : Cluster := { c with notes := c.notes ++ notes }

@[simp] theorem noting_nil (c : Cluster) : c.noting [] = c := by
  simp [noting]

@[simp] theorem noting_noting (c : Cluster) (first more : List Note) :
    (c.noting first).noting more = c.noting (first ++ more) := by
  simp [noting]

def entered (c : Cluster) (call : Call) : Cluster := { c with journal := c.journal ++ [call] }

def failure? (c : Cluster) (call : Call) : Option StoreError :=
  match c.faults c.journal.length call with
  | some (.fails e) => some e
  | _ => none

theorem run_faultOf (c : Cluster) (call : Call) :
    c.run (liftM (faultOf call) : Work ε (Option Fault)) =
      (.ok (c.faults c.journal.length call), c.entered call) := rfl

theorem run_getThe (c : Cluster) : c.run (getThe Cluster : Work ε Cluster) = (.ok c, c) := rfl

theorem run_find (c : Cluster) (coordinates : Coordinates) (key : ObjectKey) :
    c.run (find coordinates key) =
      (match c.failure? (.get coordinates key) with
        | some e => .error e
        | none => c.store.get coordinates key,
      c.entered (.get coordinates key)) := by
  have same : (c.entered (.get coordinates key)).store = c.store := rfl
  unfold find failure?
  rw [run_bind, run_faultOf]
  -- a fault that is not an error is none to this call
  rcases c.faults c.journal.length (.get coordinates key) with _ | (e | _)
  case some.fails => rfl
  all_goals
    simp only [run_bind, run_getThe, same]
    cases c.store.get coordinates key <;> rfl

theorem run_list (c : Cluster) (coordinates : Coordinates) (namespaceName : Option String)
    (selector : Selector) :
    c.run (list coordinates namespaceName selector) =
      (match c.failure? (.list coordinates namespaceName selector) with
        | some e => .error e
        | none => .ok (c.store.list coordinates namespaceName selector),
      c.entered (.list coordinates namespaceName selector)) := by
  unfold list failure?
  rw [run_bind, run_faultOf]
  rcases c.faults c.journal.length (.list coordinates namespaceName selector) with _ | (e | _) <;>
    rfl

def createReply (c : Cluster) (o : Object) : Except StoreError Object :=
  match c.failure? (.create o.coordinates (.ofObject o)) with
  | some e => .error e
  | none => (c.store.create o (c.identities c.store.issued)).map (·.1)

def creating (c : Cluster) (o : Object) : Cluster :=
  { c.entered (.create o.coordinates (.ofObject o)) with
    store := match c.failure? (.create o.coordinates (.ofObject o)) with
      | some _ => c.store
      | none => c.store.absorb c.identities o }

theorem run_create (c : Cluster) (o : Object) :
    ∃ notes, c.run (create o) = (c.createReply o, (c.creating o).noting notes) := by
  have same : (c.entered (.create o.coordinates (.ofObject o))).store = c.store := rfl
  have identities : (c.entered (.create o.coordinates (.ofObject o))).identities = c.identities :=
    rfl
  unfold create createReply creating failure? Store.absorb
  rw [run_bind, run_faultOf]
  rcases c.faults c.journal.length (.create o.coordinates (.ofObject o)) with _ | (e | _)
  case some.fails =>
    refine ⟨[], ?_⟩
    rw [noting_nil]
    rfl
  all_goals
    simp only [run_bind, run_getThe, same, identities]
    cases c.store.create o (c.identities c.store.issued) with
    | error e =>
      refine ⟨[], ?_⟩
      rw [noting_nil]
      rfl
    | ok result => exact ⟨[.created o.coordinates.kind (.ofObject o)], rfl⟩

theorem run_converted (c : Cluster) (r : Except ConversionError α) :
    c.run (converted r) = (r.mapError .conversion, c) := by
  cases r <;> rfl

theorem eq_identified_of_createReply {c : Cluster} {o stored : Object}
    (h : c.createReply o = .ok stored) : ∃ i, stored = Store.identified o i := by
  unfold createReply at h
  split at h
  · cases h
  · cases created : c.store.create o (c.identities c.store.issued) with
    | error e => simp [created, Except.map] at h
    | ok result =>
      simp only [created, Except.map, Except.ok.injEq] at h
      exact ⟨_, h ▸ Store.eq_identified_of_create created⟩

theorem run_createTyped_of_written [Resource α] (c : Cluster) {x : α} {o : Object}
    (written : Resource.toObject x = .ok o) :
    ∃ notes, c.run (createTyped x) =
      match c.createReply o with
      | .error e => (.error e, (c.creating o).noting notes)
      | .ok stored =>
        ((stored.toResource α).mapError .conversion, (c.creating o).noting notes) := by
  obtain ⟨notes, created⟩ := run_create c o
  have plain : (Except.ok o : Except ConversionError Object).mapError StoreError.conversion =
    .ok o := rfl
  refine ⟨notes, ?_⟩
  unfold createTyped
  rw [run_bind, run_converted, written, plain]
  simp only [run_bind, created]
  cases c.createReply o <;> simp only [run_converted]

theorem run_createTyped [Resource α] (c : Cluster) {x : α} {o : Object}
    (written : Resource.toObject x = .ok o)
    (readable : ∀ i, ∃ y : α, (Store.identified o i).toResource α = .ok y) :
    ∃ notes, (c.run (createTyped x)).2 = (c.creating o).noting notes ∧
      match c.createReply o with
      | .error e => (c.run (createTyped x)).1 = .error e
      | .ok _ => ∃ y, (c.run (createTyped x)).1 = .ok y := by
  obtain ⟨notes, unfolded⟩ := run_createTyped_of_written c written
  refine ⟨notes, ?_⟩
  rw [unfolded]
  cases reply : c.createReply o with
  | error e => exact ⟨rfl, rfl⟩
  | ok stored =>
    obtain ⟨i, rfl⟩ := eq_identified_of_createReply reply
    obtain ⟨y, readBack⟩ := readable i
    exact ⟨rfl, y, congrArg (Except.mapError StoreError.conversion) readBack⟩

def openReply (c : Cluster) (key : ObjectKey) : Except LogError (List UInt8) :=
  match c.logFaults c.journal.length (.openLog key) with
  | some e => .error e
  | none => c.logs.body key

def readReply (c : Cluster) (key : ObjectKey) (body : List UInt8) : Except LogError (List UInt8) :=
  match c.logFaults c.journal.length (.readLog key) with
  | some e => .error e
  | none =>
    match c.logs.deliver body with
    | (bytes, none) => .ok bytes
    | (_, some e) => .error e

end PackageInstall.Cluster

namespace PackageInstall.LogBook

def Agrees (b b' : LogBook) : Prop := b'.bodies = b.bodies ∧ b'.interruptAfter = b.interruptAfter

theorem Agrees.refl (b : LogBook) : b.Agrees b := ⟨rfl, rfl⟩

theorem Agrees.trans {a b c : LogBook} (first : a.Agrees b) (second : b.Agrees c) : a.Agrees c :=
  ⟨second.1.trans first.1, second.2.trans first.2⟩

theorem Agrees.body {b b' : LogBook} (same : b.Agrees b') (key : ObjectKey) :
    b'.body key = b.body key := by
  simp [LogBook.body, same.1]

theorem Agrees.deliver {b b' : LogBook} (same : b.Agrees b') (body : List UInt8) :
    b'.deliver body = b.deliver body := by
  simp [LogBook.deliver, same.2]

end PackageInstall.LogBook

namespace PackageInstall.Cluster

theorem run_enterLog (c : Cluster) (call : Call) :
    c.run (enterLog call) =
      (match c.logFaults c.journal.length call with
        | some e => .error e
        | none => .ok (),
      c.entered call) := by
  have number : c.run (liftM (enter call) : Work LogError Nat) =
    (.ok c.journal.length, c.entered call) := rfl
  have same : (c.entered call).logFaults = c.logFaults := rfl
  unfold enterLog
  simp only [run_bind, number, run_getThe, same]
  cases c.logFaults c.journal.length call <;> rfl

theorem run_openLog (c : Cluster) (key : ObjectKey) :
    ∃ logs, c.logs.Agrees logs ∧
      c.run (openLog key) = (c.openReply key, { c.entered (.openLog key) with logs := logs }) := by
  have same : (c.entered (.openLog key)).logs = c.logs := rfl
  unfold openLog openReply
  rw [run_bind, run_enterLog]
  cases c.logFaults c.journal.length (.openLog key) with
  | some e => exact ⟨c.logs, .refl _, rfl⟩
  | none =>
    simp only [run_bind, run_getThe, same]
    cases c.logs.body key with
    | error e => exact ⟨c.logs, .refl _, rfl⟩
    | ok body => exact ⟨{ c.logs with opened := c.logs.opened + 1 }, ⟨rfl, rfl⟩, rfl⟩

theorem run_readLog (c : Cluster) (key : ObjectKey) (body : List UInt8) :
    ∃ logs, c.logs.Agrees logs ∧
      c.run (readLog key body) =
        (c.readReply key body, { c.entered (.readLog key) with logs := logs }) := by
  let logs := { c.logs with closed := c.logs.closed + 1 }
  let closed : Cluster := { c with logs := logs }
  have modified : c.run (modifyThe Cluster fun c =>
      { c with logs := { c.logs with closed := c.logs.closed + 1 } } : Work LogError Unit) =
    (.ok (), closed) := rfl
  have same : (closed.entered (.readLog key)).logs.deliver body = c.logs.deliver body := rfl
  have faults : closed.logFaults closed.journal.length (.readLog key) =
    c.logFaults c.journal.length (.readLog key) := rfl
  refine ⟨logs, ⟨rfl, rfl⟩, ?_⟩
  unfold readLog readReply
  rw [run_bind, modified]
  simp only [run_bind, run_enterLog, faults]
  cases c.logFaults c.journal.length (.readLog key) with
  | some e => rfl
  | none =>
    simp only [run_getThe, same]
    rcases c.logs.deliver body with ⟨bytes, _ | e⟩ <;> rfl

end PackageInstall.Cluster
