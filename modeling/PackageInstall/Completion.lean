import PackageInstall.Cluster
import PackageInstall.InstallError
import PackageInstall.Job
import PackageInstall.Persona

/-!
The completion of an unpack job. The output of the job's only pod is decoded, and each document of
it is created as an object, in the order of the stream: the stack record is owned by the request,
every object bears the request's provenance labels, and before a schema definition come the persona
roles. What exists already is left as it is, so a completion may be repeated.
-/

namespace PackageInstall.Completion

open Cluster

def named (f : ε → ε') (work : Work ε α) : Work ε' α := ExceptT.adapt f work

def podSelector (job : Job) : Selector := .ofLabels [(Pod.jobLabel, job.metadata.name)]

def podOf (job : Job) : Work InstallError String := do
  let name := job.metadata.name
  let pods ← named (.listPods name) <|
    Cluster.list Pod.coordinates (some job.metadata.namespaceName) (podSelector job)
  match pods with
  | [pod] => return pod.name
  | _ => throw (.podCount name pods.length)

def outputOf (key : ObjectKey) : Work InstallError (List UInt8) := do
  let body ← named (.openLogs key.name) (openLog key)
  named (.copyLogs key.name) (readLog key body)

/-- Creates what may exist already. Whether it was there is told. -/
def createOnce (work : Work StoreError α) : Work StoreError Bool :=
  tryCatch (do discard work; return false) fun e =>
    if e.isAlreadyExists then return true else throw e

def createEach : List ClusterRole → Work (String × StoreError) Unit
  | [] => return ()
  | role :: rest => do
    if ← named (role.name, ·) (createOnce (createTyped role)) then note (.roleExists role.name)
    createEach rest

def createRoles (request : InstallRequest) (rolePrefix : String) : Work InstallError Unit :=
  named (fun (role, e) => .createClusterRole role request.name e)
    (createEach (Persona.roles request rolePrefix))

/-- A stack record takes the name and the namespace of the request where it has none, and is owned
by the request. -/
def adopted (request : InstallRequest) (o : Object) : Object :=
  if o.IsStackRecord then
    { o with metadata := { o.metadata with
        name := if o.name = "" then request.name else o.name
        namespaceName := if o.namespaceName = "" then request.namespaceName else o.namespaceName
        ownerReferences := [request.asOwner] } }
  else o

/-- The labels of an object: the request's provenance, and its namespace on a schema definition. -/
def labelsFor (request : InstallRequest) (o : Object) : Labels :=
  let labels := (Provenance.ofParent request).labels
  if o.IsSchemaDefinition ∧ request.namespaceName ≠ "" then
    labels.insert (Provenance.namespaceLabel request.namespaceName) "true"
  else labels

def materialized (request : InstallRequest) (o : Object) : Object :=
  let o := adopted request o
  { o with metadata := o.metadata.addLabels (labelsFor request o).entries }

def createObject (rolePrefix : String) (request : InstallRequest) (job : String)
    (document : Object) : Work InstallError Object := do
  let o := materialized request document
  if o.IsSchemaDefinition then
    named (fun (role, e) => .clusterRoles request.name job role e)
      (createEach (Persona.roles request rolePrefix))
  note (.creating job o (.ofParent request))
  if ← named (.createObject o.name job) (createOnce (create o)) then
    note (.objectExists o.name o.kind)
  return o

def fetchRecord (job : String) (o : Object) : Work InstallError Object :=
  named (.fetchStackRecord (.ofObject o) job) (find o.coordinates (.ofObject o))

/-- Creates the objects of the documents in their order. The last stack record is told. -/
def createAll (rolePrefix : String) (request : InstallRequest) (job : String) :
    List Documents.Item → Option Object → Work InstallError (Option Object)
  | [], record => return record
  | .error e :: _, _ => throw (.decode job e)
  | .ok none :: rest, record => createAll rolePrefix request job rest record
  | .ok (some document) :: rest, record => do
    let o ← createObject rolePrefix request job document
    if o.IsStackRecord then
      let fetched ← fetchRecord job o
      if let some previous := record then note (.anotherRecord previous.name fetched.name)
      createAll rolePrefix request job rest (some fetched)
    else createAll rolePrefix request job rest record

def referenceTo (o : Object) : ObjectReference :=
  ⟨o.apiVersion, o.kind, o.name, o.namespaceName, o.metadata.uid⟩

def complete (rolePrefix : String) (request : InstallRequest) (job : Job) :
    Work InstallError InstallRequest := do
  let name := job.metadata.name
  note (.completing name job.metadata.namespaceName request.name)
  let pod ← podOf job
  let output ← outputOf ⟨job.metadata.namespaceName, pod⟩
  match ← createAll rolePrefix request name (Documents.decode output) none with
  | none => throw (.missingStackRecord name)
  | some record =>
    note (.recordResolved record.name record.namespaceName)
    return request.withStackRecord (referenceTo record)

end PackageInstall.Completion
