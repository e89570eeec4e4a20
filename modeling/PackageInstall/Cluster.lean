import PackageInstall.LogBook
import PackageInstall.Note
import PackageInstall.Resource

namespace PackageInstall

inductive Call where
  | get (coordinates : Coordinates) (key : ObjectKey)
  | list (coordinates : Coordinates) (namespaceName : Option String) (selector : Selector)
  | create (coordinates : Coordinates) (key : ObjectKey)
  | delete (coordinates : Coordinates) (key : ObjectKey)
  | openLog (key : ObjectKey)
  | readLog (key : ObjectKey)
  deriving DecidableEq

namespace Call

def display : Call → String
  | get c k => "get " ++ c.display ++ " " ++ k.display
  | list c n s => "list " ++ c.display ++ " ns=" ++ n.getD "*" ++ " " ++ s.display
  | create c k => "create " ++ c.display ++ " " ++ k.display
  | delete c k => "delete " ++ c.display ++ " " ++ k.display
  | openLog k => "open " ++ k.display
  | readLog k => "read " ++ k.display

def isStoreCall : Call → Bool
  | openLog _ | readLog _ => false
  | _ => true

end Call

inductive Fault where
  | fails (error : StoreError)
  /-- The object is removed by other hands just before its deletion. -/
  | vanishes
  deriving DecidableEq

structure Cluster where
  store : Store
  logs : LogBook
  /-- What is assigned to the objects that are created, by the number created before. -/
  identities : Nat → Identity
  faults : Nat → Call → Option Fault
  logFaults : Nat → Call → Option LogError
  journal : List Call
  notes : List Note

/-- A piece of work on the cluster. What it has done stands also where it fails. -/
abbrev Work (ε α : Type) := ExceptT ε (StateM Cluster) α

namespace Cluster

def calm (store : Store) (logs : LogBook) (identities : Nat → Identity) : Cluster :=
  ⟨store, logs, identities, fun _ _ => none, fun _ _ => none, [], []⟩

def note (n : Note) : Work ε Unit := modify fun c => { c with notes := c.notes ++ [n] }

def enter (call : Call) : StateM Cluster Nat :=
  modifyGet fun c => (c.journal.length, { c with journal := c.journal ++ [call] })

def faultOf (call : Call) : StateM Cluster (Option Fault) := do
  let number ← enter call
  return (← get).faults number call

def enterLog (call : Call) : Work LogError Unit := do
  let number ← (enter call : StateM Cluster Nat)
  match (← getThe Cluster).logFaults number call with
  | some e => throw e
  | none => return ()

def find (coordinates : Coordinates) (key : ObjectKey) : Work StoreError Object := do
  match ← (faultOf (.get coordinates key) : StateM Cluster _) with
  | some (.fails e) => throw e
  | _ =>
    match (← getThe Cluster).store.get coordinates key with
    | .ok o => return o
    | .error e => throw e

def list (coordinates : Coordinates) (namespaceName : Option String) (selector : Selector) :
    Work StoreError (List Object) := do
  match ← (faultOf (.list coordinates namespaceName selector) : StateM Cluster _) with
  | some (.fails e) => throw e
  | _ => return (← getThe Cluster).store.list coordinates namespaceName selector

def create (o : Object) : Work StoreError Object := do
  match ← (faultOf (.create o.coordinates (.ofObject o)) : StateM Cluster _) with
  | some (.fails e) => throw e
  | _ =>
    let c ← getThe Cluster
    match c.store.create o (c.identities c.store.issued) with
    | .error e => throw e
    | .ok (created, store) =>
      set { c with store := store }
      note (.created o.coordinates.kind (.ofObject o))
      return created

def delete (coordinates : Coordinates) (key : ObjectKey) : Work StoreError Unit := do
  match ← (faultOf (.delete coordinates key) : StateM Cluster _) with
  | some (.fails e) => throw e
  | some .vanishes =>
    modifyThe Cluster fun c => { c with store := c.store.without coordinates key }
    throw (.notFound coordinates.kind key)
  | none =>
    let c ← getThe Cluster
    match c.store.delete coordinates key with
    | .error e => throw e
    | .ok store => set { c with store := store }

def converted (r : Except ConversionError α) : Work StoreError α :=
  match r with
  | .ok value => return value
  | .error e => throw (.conversion e)

def findTyped (α : Type) [Resource α] (coordinates : Coordinates) (key : ObjectKey) :
    Work StoreError α := do
  converted ((← find coordinates key).toResource α)

def createTyped [Resource α] (resource : α) : Work StoreError α := do
  let o ← converted (Resource.toObject resource)
  converted ((← create o).toResource α)

def openLog (key : ObjectKey) : Work LogError (List UInt8) := do
  enterLog (.openLog key)
  let c ← getThe Cluster
  match c.logs.body key with
  | .error e => throw e
  | .ok body =>
    set { c with logs := { c.logs with opened := c.logs.opened + 1 } }
    return body

/-- Reads an open output to its end and closes it, also where it breaks off. -/
def readLog (key : ObjectKey) (body : List UInt8) : Work LogError (List UInt8) := do
  modifyThe Cluster fun c => { c with logs := { c.logs with closed := c.logs.closed + 1 } }
  enterLog (.readLog key)
  match (← getThe Cluster).logs.deliver body with
  | (bytes, none) => return bytes
  | (_, some e) => throw e

end Cluster

end PackageInstall
