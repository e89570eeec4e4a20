import PackageInstall.Cluster
import PackageInstall.ClusterRole
import PackageInstall.InstallError

/-!
The removal of what was created on behalf of a request. Objects of the whole cluster do not go with
a request in a namespace, so they are found by their provenance labels.
-/

namespace PackageInstall.Sweep

open Cluster

/-- The types that no request in a namespace can own. -/
def clusterScoped : List Coordinates := [Coordinates.schemaDefinition, ClusterRole.coordinates]

/-- Deletes an object unless it is gone already. Whether it was there is told. -/
def remove (c : Coordinates) (o : Object) : Work StoreError Bool :=
  tryCatch (do delete c (.ofObject o); return true) fun e => do
    if e.isNotFound then
      note (.alreadyRemoved c.kind o.name)
      return false
    else throw e

def removeAll (c : Coordinates) : List Object → Nat → Work StoreError Nat
  | [], deleted => return deleted
  | o :: rest, deleted => do
    if ← remove c o then removeAll c rest (deleted + 1) else removeAll c rest deleted

def sweepType (request : InstallRequest) (c : Coordinates) (deleted : Nat) :
    Work InstallError Nat :=
  ExceptT.adapt (.sweep c.kind request.name) do
    removeAll c (← list c none (Provenance.ofParent request).selector) deleted

def sweepTypes (request : InstallRequest) : List Coordinates → Nat → Work InstallError Nat
  | [], deleted => return deleted
  | c :: rest, deleted => do sweepTypes request rest (← sweepType request c deleted)

def sweep (request : InstallRequest) (types : List Coordinates) : Work InstallError Nat := do
  let deleted ← sweepTypes request types 0
  note (.swept request.name deleted)
  return deleted

end PackageInstall.Sweep
