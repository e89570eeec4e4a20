import PackageInstall.Json

namespace PackageInstall.Toml

inductive Form where
  | implied
  | stated
  | dotted
  deriving DecidableEq

inductive Item where
  | value (value : Json)
  | table (form : Form) (entries : List (String × Item))
  /-- Tables with one name; lines go to the last. -/
  | tables (before : List (List (String × Item))) (last : List (String × Item))
  deriving Inhabited

abbrev Entries := List (String × Item)

namespace Entries

abbrev Change := Form → Entries → Option Entries

/-- Makes a change at the end of a path. Tables that are not there are made on the way; by a dotted
path no stated table is reached. -/
def within (dotted : Bool) (change : Change) : List String → Change
  | [], form, entries => change form entries
  | name :: path, _, entries => do
    match KeyMap.lookup name entries with
    | none =>
      let form := if dotted then .dotted else .implied
      return KeyMap.place name (.table form (← within dotted change path form [])) entries
    | some (.value _) => none
    | some (.table form inner) =>
      if dotted ∧ form = .stated then none
      else return KeyMap.place name (.table form (← within dotted change path form inner)) entries
    | some (.tables before last) =>
      return KeyMap.place name (.tables before (← within dotted change path .stated last)) entries

def state (name : String) : Change := fun _ entries =>
  match KeyMap.lookup name entries with
  | none => some (KeyMap.place name (.table .stated []) entries)
  | some (.table .implied inner) => some (KeyMap.place name (.table .stated inner) entries)
  | some _ => none

def append (name : String) : Change := fun _ entries =>
  match KeyMap.lookup name entries with
  | none => some (KeyMap.place name (.tables [] []) entries)
  | some (.tables before last) =>
    some (KeyMap.place name (.tables (before ++ [last]) []) entries)
  | some _ => none

/-- Sets a value. At the end of a dotted path the table must be one that such paths make. -/
def put (path : List String) (name : String) (value : Json) : Change := fun form entries =>
  if form = .dotted ↔ path = [] then none
  else
    match KeyMap.lookup name entries with
    | none => some (KeyMap.place name (.value value) entries)
    | some _ => none

def putAt (path : List String) (name : String) (value : Json) : Change :=
  within true (put path name value) path

end Entries

mutual

def Item.toJson : Item → Json
  | .value v => v
  | .table _ entries => .object (entriesToJson entries)
  | .tables before last => .array (tablesToJson before ++ [.object (entriesToJson last)])

def entriesToJson : List (String × Item) → List (String × Json)
  | [] => []
  | (name, item) :: rest => (name, item.toJson) :: entriesToJson rest

def tablesToJson : List (List (String × Item)) → List Json
  | [] => []
  | entries :: rest => .object (entriesToJson entries) :: tablesToJson rest

end

end PackageInstall.Toml
