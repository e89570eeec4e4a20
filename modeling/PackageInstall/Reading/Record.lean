import PackageInstall.Reading.Basic

namespace PackageInstall.Reading

structure Field (α : Type) where
  name : String
  read : Json → Except ReadFault α
  absent : Option α

namespace Field

def required (name : String) (read : Json → Except ReadFault α) : Field α := ⟨name, read, none⟩

def withDefault (name : String) (read : Json → Except ReadFault α) (absent : α) : Field α :=
  ⟨name, read, some absent⟩

def optional (name : String) (read : Json → Except ReadFault α) : Field (Option α) :=
  ⟨name, Reading.optional read, some none⟩

def ofObject (f : Field α) (fields : List (String × Json)) : Except ReadFault α :=
  match KeyMap.lookup f.name fields with
  | some value => f.read value
  | none =>
    match f.absent with
    | some value => .ok value
    | none => .error (.missingField f.name)

def check (f : Field α) (key : String) (value : Json) : Except ReadFault Unit :=
  if key = f.name then (f.read value).map fun _ => () else .ok ()

end Field

structure Record (α : Type) where
  names : List String
  check : String → Json → Except ReadFault Unit
  ofObject : List (String × Json) → Except ReadFault α
  /-- Reads the fields from items, given what to expect where items are missing. The number is that
  of the fields. -/
  ofItems : String → List Json → Except ReadFault (α × Nat × List Json)

namespace Record

def make (value : α) : Record α where
  names := []
  check _ _ := .ok ()
  ofObject _ := .ok value
  ofItems _ items := .ok (value, 0, items)

def field (r : Record (α → β)) (f : Field α) : Record β where
  names := r.names ++ [f.name]
  check key value := do
    r.check key value
    f.check key value
  ofObject fields := do
    let rest ← r.ofObject fields
    rest <$> f.ofObject fields
  ofItems expected items := do
    let (rest, count, items) ← r.ofItems expected items
    match items, f.absent with
    | value :: items, _ => (fun v => (rest v, count + 1, items)) <$> f.read value
    | [], some value => .ok (rest value, count + 1, [])
    | [], none => .error (.wrongLength count expected)

/-- The fields of an object, checked in key order before they are put together. -/
def readObject (r : Record α) (fields : List (String × Json)) : Except ReadFault α := do
  fields.forM fun e => r.check e.1 e.2
  r.ofObject fields

def elements (n : Nat) : String := toString n ++ (if n = 1 then " element" else " elements")

def read (r : Record α) (name : String) : Json → Except ReadFault α
  | .object fields => r.readObject fields
  | .array items => do
    let (value, _, rest) ←
      r.ofItems ("struct " ++ name ++ " with " ++ elements r.names.length) items
    if rest.isEmpty then .ok value
    else .error (.wrongLength items.length "fewer elements in array")
  | other => .error (.wrongType other ("struct " ++ name))

def restOf (r : Record α) (fields : List (String × Json)) : KeyMap Json :=
  KeyMap.ofList (fields.filter fun e => !r.names.contains e.1)

def readOpen (r : Record (KeyMap Json → α)) (name : String) : Json → Except ReadFault α
  | .object fields => (· (r.restOf fields)) <$> r.readObject fields
  | other => .error (.wrongType other ("struct " ++ name))

end Record

end PackageInstall.Reading
