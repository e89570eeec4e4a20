import PackageInstall.Proofs.Agenda
import PackageInstall.Proofs.Making
import PackageInstall.Proofs.Persona

namespace PackageInstall.Completion

open Cluster

variable {ε ε' ε'' α β : Type}

theorem run_named (c : Cluster) (told : ε → ε') (work : Work ε α) :
    c.run (named told work) = ((c.run work).1.mapError told, (c.run work).2) :=
  run_adapt c told work

theorem named_bind (told : ε → ε') (work : Work ε α) (next : α → Work ε β) :
    named told (work >>= next) = named told work >>= fun a => named told (next a) :=
  adapt_bind told work next

theorem named_named (told : ε' → ε'') (told' : ε → ε') (work : Work ε α) :
    named told (named told' work) = named (told ∘ told') work := by
  refine work_ext fun c => ?_
  rw [run_named, run_named, run_named]
  rcases c.run work with ⟨_ | a, after⟩ <;> rfl

theorem run_createOnce (c : Cluster) (work : Work StoreError α) :
    c.run (createOnce work) =
      (match (c.run work).1 with
        | .ok _ => .ok false
        | .error e => if e.isAlreadyExists then .ok true else .error e,
      (c.run work).2) := by
  have discarded : c.run (do discard work; return false) =
      (match (c.run work).1 with
        | .ok _ => .ok false
        | .error e => .error e, (c.run work).2) := by
    show c.run ((work >>= fun _ => pure ()) >>= fun _ => pure false) = _
    rw [run_bind, run_bind]
    rcases c.run work with ⟨_ | a, after⟩ <;> rfl
  unfold createOnce
  rw [run_tryCatch, discarded]
  rcases c.run work with ⟨e | a, after⟩
  · show after.run _ = _
    cases known : e.isAlreadyExists <;> simp only [known] <;> rfl
  · rfl

theorem performs_createOnce {c : Cluster} {work : Work StoreError α} {o : Object}
    (told : StoreError → InstallError)
    (creates : ∃ notes, (c.run work).2 = (c.creating o).noting notes ∧
      match c.createReply o with
      | .error e => (c.run work).1 = .error e
      | .ok _ => ∃ a, (c.run work).1 = .ok a) :
    c.Performs (named told (createOnce work)) [.create o told] fun _ => True := by
  obtain ⟨notes, left, answer⟩ := creates
  have after : c.afterAgenda [.create o told] = c.creating o := by
    simp only [afterAgenda, Act.after]
    split <;> rfl
  have fails : c.agendaError? [.create o told] = (c.refusal? o).map told := by
    simp only [agendaError?, Act.error?]
    cases c.refusal? o <;> rfl
  unfold Performs
  rw [run_named, run_createOnce, after, fails, left]
  refine ⟨⟨notes, rfl⟩, ?_⟩
  unfold refusal?
  cases reply : c.createReply o with
  | ok stored =>
    simp only [reply] at answer
    obtain ⟨a, answer⟩ := answer
    rw [answer]
    exact ⟨false, trivial, rfl⟩
  | error e =>
    simp only [reply] at answer
    rw [answer]
    cases known : e.isAlreadyExists with
    | true =>
      simp only [known, if_true]
      exact ⟨true, trivial, rfl⟩
    | false =>
      simp only [known, Bool.false_eq_true, if_false]
      rfl

theorem performs_create (c : Cluster) (o : Object) (told : StoreError → InstallError) :
    c.Performs (named told (createOnce (create o))) [.create o told] fun _ => True := by
  refine performs_createOnce told ?_
  obtain ⟨notes, created⟩ := run_create c o
  refine ⟨notes, by rw [created], ?_⟩
  rw [created]
  cases c.createReply o with
  | error e => rfl
  | ok stored => exact ⟨stored, rfl⟩

theorem performs_createRole {r : ClusterRole} {request : InstallRequest} {rolePrefix : String}
    (c : Cluster) (member : r ∈ Persona.roles request rolePrefix)
    (told : StoreError → InstallError) :
    c.Performs (named told (createOnce (createTyped r))) [.create (Resource.object r) told]
      fun _ => True := by
  obtain ⟨p, rfl⟩ := Persona.exists_of_mem_roles member
  exact performs_createOnce told <|
    run_createTyped c (Persona.toObject_role p request rolePrefix)
      (Persona.toResource_role p request rolePrefix)

def roleActs (told : String × StoreError → InstallError) (roles : List Object) : Agenda :=
  roles.map fun r => .create r fun e => told (r.name, e)

theorem performs_createEach {request : InstallRequest} {rolePrefix : String} (c : Cluster)
    (told : String × StoreError → InstallError) {rs : List ClusterRole}
    (known : ∀ r ∈ rs, r ∈ Persona.roles request rolePrefix) :
    c.Performs (named told (createEach rs)) (roleActs told (rs.map Resource.object))
      fun _ => True := by
  induction rs generalizing c with
  | nil => exact Performs.pure c trivial
  | cons r rest ih =>
    have first : ∀ d : Cluster, d.Performs
        (named told (named (r.name, ·) (createOnce (createTyped r))))
        [.create (Resource.object r) fun e => told (r.name, e)] fun _ => True := by
      intro d
      rw [named_named]
      exact performs_createRole d (known r List.mem_cons_self) _
    have others : ∀ d : Cluster, d.Performs (named told (createEach rest))
        (roleActs told (rest.map Resource.object)) fun _ => True :=
      fun d => ih d fun r' later => known r' (List.mem_cons_of_mem _ later)
    show c.Performs (named told (createEach (r :: rest)))
      ([_] ++ roleActs told (rest.map Resource.object)) _
    unfold createEach
    rw [named_bind]
    refine (first c).bind fun there notes _ _ => ?_
    cases there with
    | false => exact others _
    | true =>
      rw [if_pos rfl, named_bind]
      exact (Performs.note _ (.roleExists r.name)).bind fun _ _ _ _ => others _

def creationActs (rolePrefix : String) (request : InstallRequest) (job : String) (o : Object) :
    Agenda :=
  (if o.IsSchemaDefinition then
    roleActs (fun (role, e) => .clusterRoles request.name job role e)
      (Persona.roleObjects request rolePrefix)
  else []) ++ [.create o (.createObject o.name job)]

theorem performs_createObject (c : Cluster) (rolePrefix : String) (request : InstallRequest)
    (job : String) (document : Object) :
    c.Performs (createObject rolePrefix request job document)
      (creationActs rolePrefix request job (materialized request document))
      fun o => o = materialized request document := by
  have object : ∀ d : Cluster, d.Performs (do
      note (.creating job (materialized request document) (.ofParent request))
      if ← named (.createObject (materialized request document).name job)
          (createOnce (create (materialized request document))) then
        note (.objectExists (materialized request document).name
          (materialized request document).kind)
      return materialized request document)
      [.create (materialized request document)
        (.createObject (materialized request document).name job)]
      fun o => o = materialized request document := by
    intro d
    refine (Performs.note d _).bind fun _ _ _ _ => ?_
    refine (performs_create _ _ _).bind fun there notes _ _ => ?_
    cases there with
    | false => exact Performs.pure _ rfl
    | true => exact (Performs.note _ _).bind fun _ _ _ _ => Performs.pure _ rfl
  unfold createObject creationActs
  by_cases schema : (materialized request document).IsSchemaDefinition
  · simp only [if_pos schema, Persona.roleObjects_eq]
    refine (performs_createEach c _ fun _ member => member).bind fun _ _ _ _ => ?_
    exact object _
  · simp only [if_neg schema]
    exact object c

def fetchAct (job : String) (o : Object) : Act := .fetch o (.fetchStackRecord (.ofObject o) job)

theorem performs_fetchRecord (c : Cluster) (job : String) (o : Object) :
    c.Performs (fetchRecord job o) [fetchAct job o]
      fun stored => c.store.find? o.coordinates (.ofObject o) = some stored := by
  have after : c.afterAgenda [fetchAct job o] =
      c.entered (.get o.coordinates (.ofObject o)) := by
    simp only [afterAgenda, Act.after]
    split <;> rfl
  have run : c.run (fetchRecord job o) =
      ((c.findReply o.coordinates (.ofObject o)).mapError (.fetchStackRecord (.ofObject o) job),
        c.entered (.get o.coordinates (.ofObject o))) := by
    rw [fetchRecord, run_named, run_find]
    rfl
  unfold Performs
  rw [run, after]
  refine ⟨⟨[], (noting_nil _).symm⟩, ?_⟩
  simp only [fetchAct, agendaError?, Act.error?]
  cases reply : c.findReply o.coordinates (.ofObject o) with
  | error e => rfl
  | ok stored =>
    refine ⟨stored, ?_, rfl⟩
    unfold findReply at reply
    split at reply
    · cases reply
    · unfold Store.get at reply
      split at reply
      · cases reply
        assumption
      · cases reply

def documentActs (rolePrefix : String) (request : InstallRequest) (job : String)
    (document : Object) : Agenda :=
  let o := materialized request document
  creationActs rolePrefix request job o ++ if o.IsStackRecord then [fetchAct job o] else []

def itemActs (rolePrefix : String) (request : InstallRequest) (job : String) :
    Documents.Item → Agenda
  | .error e => [.refuse (.decode job e)]
  | .ok none => []
  | .ok (some document) => documentActs rolePrefix request job document

def agenda (rolePrefix : String) (request : InstallRequest) (job : String)
    (items : List Documents.Item) : Agenda :=
  items.flatMap (itemActs rolePrefix request job)

/-- What there is to do about the items of a stream, told by what is made of its documents. -/
inductive Prescribed (rolePrefix : String) (request : InstallRequest) (job : String) :
    List Documents.Item → Agenda → Prop where
  | nil : Prescribed rolePrefix request job [] []
  | fault {e : DecodeError} {rest : List Documents.Item} {acts : Agenda}
      (later : Prescribed rolePrefix request job rest acts) :
      Prescribed rolePrefix request job (.error e :: rest) (.refuse (.decode job e) :: acts)
  | empty {rest : List Documents.Item} {acts : Agenda}
      (later : Prescribed rolePrefix request job rest acts) :
      Prescribed rolePrefix request job (.ok none :: rest) acts
  | document {document o : Object} {rest : List Documents.Item} {acts : Agenda}
      (made : MadeOf request document o) (later : Prescribed rolePrefix request job rest acts) :
      Prescribed rolePrefix request job (.ok (some document) :: rest)
        ((if document.IsSchemaDefinition then
            (Persona.roleObjects request rolePrefix).map fun r =>
              .create r fun e => .clusterRoles request.name job r.name e
          else []) ++
          .create o (.createObject o.name job) ::
            ((if document.IsStackRecord then [.fetch o (.fetchStackRecord (.ofObject o) job)]
              else []) ++ acts))

theorem prescribed_agenda (rolePrefix : String) (request : InstallRequest) (job : String)
    (items : List Documents.Item) :
    Prescribed rolePrefix request job items (agenda rolePrefix request job items) := by
  induction items with
  | nil => exact .nil
  | cons item rest ih =>
    rcases item with e | _ | document
    · exact .fault ih
    · exact .empty ih
    · have acts : agenda rolePrefix request job (.ok (some document) :: rest) =
          (if document.IsSchemaDefinition then
            (Persona.roleObjects request rolePrefix).map fun r =>
              .create r fun e => .clusterRoles request.name job r.name e
          else []) ++
          .create (materialized request document)
              (.createObject (materialized request document).name job) ::
            ((if document.IsStackRecord then
                [.fetch (materialized request document)
                  (.fetchStackRecord (.ofObject (materialized request document)) job)]
              else []) ++ agenda rolePrefix request job rest) := by
        by_cases schema : document.IsSchemaDefinition <;>
          by_cases stack : document.IsStackRecord <;>
            simp [agenda, itemActs, documentActs, creationActs, roleActs, fetchAct, schema, stack,
              isSchemaDefinition_materialized, isStackRecord_materialized]
      rw [acts]
      exact .document (madeOf_materialized request document) ih

def lastFetched (acts : Agenda) : Option Object := (acts.filterMap Act.fetched?).getLast?

/-- The record that is told after an agenda: the last that was fetched, as it is stored, or what was
there before. -/
structure Tells (s : Store) (acts : Agenda) (record answer : Option Object) : Prop where
  unfetched : lastFetched acts = none → answer = record
  fetched : ∀ o, lastFetched acts = some o →
    ∃ stored, answer = some stored ∧ s.find? o.coordinates (.ofObject o) = some stored

theorem creationActs_fetched (rolePrefix : String) (request : InstallRequest) (job : String)
    (o : Object) : (creationActs rolePrefix request job o).filterMap Act.fetched? = [] := by
  have roles : ∀ told (rs : List Object), (roleActs told rs).filterMap Act.fetched? = [] := by
    intro told rs
    simp [roleActs, List.filterMap_map, Act.fetched?, Function.comp_def]
  unfold creationActs
  split <;> simp [roles, Act.fetched?]

theorem Tells.later {s t : Store} (grown : s.entries <+: t.entries) {o stored : Object}
    (found : s.find? o.coordinates (.ofObject o) = some stored) {front back : Agenda}
    (last : front.filterMap Act.fetched? = [o]) {answer : Option Object}
    (told : Tells t back (some stored) answer) (record : Option Object) :
    Tells t (front ++ back) record answer := by
  have final : lastFetched (front ++ back) = (lastFetched back).or (some o) := by
    rw [lastFetched, lastFetched, List.filterMap_append, last, List.getLast?_append,
      List.getLast?_singleton]
  cases later : lastFetched back with
  | none =>
    rw [later] at final
    refine ⟨fun nothing => ?_, fun o' first => ?_⟩
    · rw [final] at nothing
      cases nothing
    · rw [final] at first
      cases first
      exact ⟨stored, told.unfetched later, Store.find?_of_grown grown found⟩
  | some o'' =>
    rw [later] at final
    refine ⟨fun nothing => ?_, fun o' first => ?_⟩
    · rw [final] at nothing
      cases nothing
    · rw [final] at first
      cases first
      exact told.fetched _ later

theorem Tells.earlier {t : Store} {front back : Agenda}
    (nothing : front.filterMap Act.fetched? = []) {record answer : Option Object}
    (told : Tells t back record answer) : Tells t (front ++ back) record answer := by
  have final : lastFetched (front ++ back) = lastFetched back := by
    rw [lastFetched, lastFetched, List.filterMap_append, nothing, List.nil_append]
  exact ⟨fun unfetched => told.unfetched (final ▸ unfetched),
    fun o fetched => told.fetched o (final ▸ fetched)⟩

theorem store_of_passed {c : Cluster} {front : Agenda} (passed : c.agendaError? front = none)
    (notes : List Note) (back : Agenda) :
    (((c.afterAgenda front).noting notes).afterAgenda back).store =
      (c.afterAgenda (front ++ back)).store := by
  rw [afterAgenda_append, passed, (inert_noting notes).afterAgenda]
  rfl

theorem agenda_record {rolePrefix : String} {request : InstallRequest} {job : String}
    {document : Object} (stack : (materialized request document).IsStackRecord)
    (rest : List Documents.Item) :
    agenda rolePrefix request job (.ok (some document) :: rest) =
      creationActs rolePrefix request job (materialized request document) ++
        ([fetchAct job (materialized request document)] ++ agenda rolePrefix request job rest) := by
  simp [agenda, itemActs, documentActs, if_pos stack]

theorem agenda_other {rolePrefix : String} {request : InstallRequest} {job : String}
    {document : Object} (other : ¬(materialized request document).IsStackRecord)
    (rest : List Documents.Item) :
    agenda rolePrefix request job (.ok (some document) :: rest) =
      creationActs rolePrefix request job (materialized request document) ++
        agenda rolePrefix request job rest := by
  simp [agenda, itemActs, documentActs, if_neg other]

theorem performs_record {c : Cluster} {job : String} {o : Object}
    {next : Object → Work InstallError (Option Object)} {acts : Agenda}
    (others : ∀ (d : Cluster) (stored : Object),
      d.Performs (next stored) acts (Tells (d.afterAgenda acts).store acts (some stored)))
    (record : Option Object) :
    c.Performs (fetchRecord job o >>= next) ([fetchAct job o] ++ acts)
      (Tells (c.afterAgenda ([fetchAct job o] ++ acts)).store ([fetchAct job o] ++ acts)
        record) := by
  refine (performs_fetchRecord c job o).bind fun stored notes found passed => ?_
  refine (others _ stored).imp ?_
  intro answer _ told
  rw [store_of_passed passed] at told
  exact Tells.later (entries_grow_afterAgenda c _) found rfl told record

theorem performs_createAll (c : Cluster) (rolePrefix : String) (request : InstallRequest)
    (job : String) (items : List Documents.Item) (record : Option Object) :
    c.Performs (createAll rolePrefix request job items record)
      (agenda rolePrefix request job items)
      (Tells (c.afterAgenda (agenda rolePrefix request job items)).store
        (agenda rolePrefix request job items) record) := by
  induction items generalizing c record with
  | nil =>
    have unfetched : lastFetched (agenda rolePrefix request job []) = none := rfl
    exact Performs.pure c ⟨fun _ => rfl, fun o first => by rw [unfetched] at first; cases first⟩
  | cons item rest ih =>
    rcases item with e | _ | document
    · exact Performs.throw c _ _
    · exact ih c record
    · have create := performs_createObject c rolePrefix request job document
      have nothing := creationActs_fetched rolePrefix request job (materialized request document)
      unfold createAll
      by_cases stack : (materialized request document).IsStackRecord
      · rw [agenda_record stack]
        refine create.bind ?_
        rintro o notes rfl passed
        rw [if_pos stack]
        refine (performs_record ?_ record).imp ?_
        · intro d stored
          cases record with
          | none => exact ih d (some stored)
          | some previous =>
            refine (Performs.note d _).bind fun _ notes' _ _ => ?_
            refine (ih _ (some stored)).imp ?_
            intro answer _ told
            rwa [(inert_noting notes').afterAgenda] at told
        · intro answer _ told
          rw [store_of_passed passed] at told
          exact told.earlier nothing
      · rw [agenda_other stack]
        refine create.bind ?_
        rintro o notes rfl passed
        rw [if_neg stack]
        refine (ih _ record).imp ?_
        intro answer _ told
        rw [store_of_passed passed] at told
        exact told.earlier nothing

end PackageInstall.Completion
