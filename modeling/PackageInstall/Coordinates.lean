import PackageInstall.Reading.Record

namespace PackageInstall

structure Coordinates where
  group : String
  version : String
  kind : String
  deriving DecidableEq, Inhabited

namespace Coordinates

def splitSlash : List Char → Option (List Char × List Char)
  | [] => none
  | c :: rest =>
    if c = '/' then some ([], rest) else (splitSlash rest).map fun (a, b) => (c :: a, b)

def ofApiVersion (apiVersion kind : String) : Coordinates :=
  match splitSlash apiVersion.toList with
  | some (group, version) => ⟨String.ofList group, String.ofList version, kind⟩
  | none => ⟨"", apiVersion, kind⟩

def apiVersion (c : Coordinates) : String :=
  if c.group = "" then c.version else c.group ++ "/" ++ c.version

def display (c : Coordinates) : String := c.apiVersion ++ ", Kind=" ++ c.kind

def lower (s : String) : List Char := s.toList.map Char.toLower

/-- Coordinates whose kinds differ at most in the case of letters. -/
def SameType (a b : Coordinates) : Prop :=
  a.group = b.group ∧ a.version = b.version ∧ lower a.kind = lower b.kind

instance (a b : Coordinates) : Decidable (SameType a b) := inferInstanceAs (Decidable (_ ∧ _))

def stackGroup : String := "stacks.crossplane.io"

def stackVersion : String := "v1alpha1"

def stack : Coordinates := ⟨stackGroup, stackVersion, "Stack"⟩

def schemaDefinition : Coordinates :=
  ⟨"apiextensions.k8s.io", "v1beta1", "CustomResourceDefinition"⟩

def IsStackRecord (c : Coordinates) : Prop := c.SameType stack

instance (c : Coordinates) : Decidable c.IsStackRecord := inferInstanceAs (Decidable (SameType _ _))

def IsSchemaDefinition (c : Coordinates) : Prop := c.SameType schemaDefinition

instance (c : Coordinates) : Decidable c.IsSchemaDefinition :=
  inferInstanceAs (Decidable (SameType _ _))

def precedes (a b : Coordinates) : Bool :=
  if a.group = b.group then
    if a.version = b.version then decide (a.kind ≤ b.kind) else decide (a.version ≤ b.version)
  else decide (a.group ≤ b.group)

def sort (cs : List Coordinates) : List Coordinates := cs.mergeSort precedes

open Reading

def record : Record Coordinates :=
  Record.make Coordinates.mk
  |>.field (.required "group" text)
  |>.field (.required "version" text)
  |>.field (.required "kind" text)

def read : Json → Except ReadFault Coordinates := record.read "GroupVersionKind"

def write (c : Coordinates) : Json :=
  .ofFields [("group", .text c.group), ("version", .text c.version), ("kind", .text c.kind)]

end Coordinates

end PackageInstall
