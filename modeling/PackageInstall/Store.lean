import PackageInstall.Object
import PackageInstall.Selector

namespace PackageInstall

/-- Namespace and name of an object; the namespace of an object of the whole cluster is empty. -/
structure ObjectKey where
  namespaceName : String
  name : String
  deriving DecidableEq

namespace ObjectKey

def ofObject (o : Object) : ObjectKey := ⟨o.namespaceName, o.name⟩

def display (k : ObjectKey) : String := k.namespaceName ++ "/" ++ k.name

def precedes (a b : ObjectKey) : Bool :=
  if a.namespaceName = b.namespaceName then decide (a.name ≤ b.name)
  else decide (a.namespaceName ≤ b.namespaceName)

def sort (ks : List ObjectKey) : List ObjectKey := ks.mergeSort precedes

end ObjectKey

inductive StoreError where
  | notFound (kind : String) (key : ObjectKey)
  | alreadyExists (kind : String) (key : ObjectKey)
  | invalid (reason : String)
  | conversion (error : ConversionError)
  | storage (reason : String)
  deriving DecidableEq

namespace StoreError

def placed (kind : String) (key : ObjectKey) (what : String) : String :=
  kind ++ " \"" ++ key.name ++ "\" " ++ what ++ " in namespace \"" ++ key.namespaceName ++ "\""

def message : StoreError → String
  | notFound kind key => placed kind key "not found"
  | alreadyExists kind key => placed kind key "already exists"
  | invalid reason => "Invalid object: " ++ reason
  | conversion error => "Conversion error: " ++ error.message
  | storage reason => "Storage error: " ++ reason

def isNotFound : StoreError → Bool
  | notFound .. => true
  | _ => false

def isAlreadyExists : StoreError → Bool
  | alreadyExists .. => true
  | _ => false

end StoreError

structure Identity where
  uid : String
  created : Timestamp
  deriving DecidableEq

namespace Store

structure Entry where
  coordinates : Coordinates
  key : ObjectKey
  object : Object
  sequence : Nat
  deriving DecidableEq

def Entry.isAt (e : Entry) (c : Coordinates) (k : ObjectKey) : Bool :=
  decide (e.coordinates = c ∧ e.key = k)

end Store

/-- Stored objects in the order of their creation, and the number of objects ever created. -/
structure Store where
  entries : List Store.Entry
  issued : Nat
  deriving DecidableEq

namespace Store

def empty : Store := ⟨[], 0⟩

instance : Inhabited Store := ⟨empty⟩

def size (s : Store) : Nat := s.entries.length

def objects (s : Store) : List Object := s.entries.map (·.object)

def find? (s : Store) (c : Coordinates) (k : ObjectKey) : Option Object :=
  (s.entries.find? fun e => e.isAt c k).map (·.object)

def get (s : Store) (c : Coordinates) (k : ObjectKey) : Except StoreError Object :=
  match s.find? c k with
  | some o => .ok o
  | none => .error (.notFound c.kind k)

def list (s : Store) (c : Coordinates) (namespaceName : Option String) (selector : Selector) :
    List Object :=
  (s.entries.filter fun e =>
    e.coordinates = c && namespaceName.all (· = e.key.namespaceName) &&
      selector.admits e.object.metadata.labels).map (·.object)

def identified (o : Object) (i : Identity) : Object :=
  { o with metadata := { o.metadata with uid := i.uid, creationTimestamp := some i.created } }

/-- Creates an object at its own coordinates and key, after all others. -/
def create (s : Store) (o : Object) (i : Identity) : Except StoreError (Object × Store) :=
  let c := o.coordinates
  let k := ObjectKey.ofObject o
  if o.name = "" then .error (.invalid (o.kind ++ " object has no name"))
  else if (s.find? c k).isSome then .error (.alreadyExists c.kind k)
  else
    let created := identified o i
    .ok (created, ⟨s.entries ++ [⟨c, k, created, s.issued⟩], s.issued + 1⟩)

def without (s : Store) (c : Coordinates) (k : ObjectKey) : Store :=
  { s with entries := s.entries.filter fun e => !e.isAt c k }

def delete (s : Store) (c : Coordinates) (k : ObjectKey) : Except StoreError Store :=
  if (s.find? c k).isSome then .ok (s.without c k) else .error (.notFound c.kind k)

end Store

end PackageInstall
