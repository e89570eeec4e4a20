import PackageInstall.Object

namespace PackageInstall

class Resource (α : Type) where
  coordinates : α → Coordinates
  metadata : α → Metadata
  withMetadata : α → Metadata → α
  read : Json → Except ReadFault α
  fields : α → KeyMap Json

namespace Resource

variable {α : Type} [Resource α]

def write (x : α) : Json := .ofMap (fields x)

def toObject (x : α) : Except ConversionError Object :=
  let c := coordinates x
  let marked := ((fields x).insert "apiVersion" (.text c.apiVersion)).insert "kind" (.text c.kind)
  (Object.read (.ofMap marked)).mapError .serialization

end Resource

def Object.toResource (α : Type) [Resource α] (o : Object) : Except ConversionError α :=
  (Resource.read o.write : Except ReadFault α).mapError .serialization

end PackageInstall
