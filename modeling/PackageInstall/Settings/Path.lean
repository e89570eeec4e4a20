import PackageInstall.Settings.Setting
import PackageInstall.Text.Scan

namespace PackageInstall.Settings

open Text (Scan)

inductive Step where
  | entry (name : String)
  /-- Negative places count from the end. -/
  | item (place : Int)
  deriving DecidableEq

structure Path where
  first : String
  steps : List Step
  deriving DecidableEq

namespace Path

def isNameChar (c : Char) : Bool := c.isAlphanum ∨ c = ' ' ∨ c = '_' ∨ c = '-'

def isGap (c : Char) : Bool := c = ' ' ∨ c = '\t'

def name : Scan String := String.ofList <$> Scan.some isNameChar

def place : Scan Int := do
  Scan.skip isGap
  let negative ← Scan.accept "-"
  let digits ← Scan.some Char.isDigit
  Scan.skip isGap
  let n : Int := digits.foldl (fun n c => n * 10 + (c.toNat - 48 : Nat)) 0
  let n := if negative then -n else n
  if isInt64 n then return n else failure

def step : Scan (Option Step) := do
  match ← Scan.peek with
  | none => return none
  | some '.' => Scan.char '.'; return some (.entry (← name))
  | some '[' =>
    Scan.char '['
    let n ← place
    Scan.char ']'
    return some (.item n)
  | _ => failure

/-- A text that is no path is a name as it stands. -/
def ofText (s : String) : Path :=
  match Scan.all (do return ⟨← name, ← Scan.many step⟩) s.toList with
  | some path => path
  | none => ⟨s, []⟩

end Path

def itemsTo (place : Nat) (items : List Setting) : List Setting :=
  items ++ List.replicate (place + 1 - items.length) .nothing

/-- The place that a number stands for in a list. Before the first one there is none, and there the
program stops, see `strays`. -/
def placeIn (items : List Setting) (place : Int) : Nat :=
  if 0 ≤ place then place.toNat else (items.length + place).toNat

def putAt (value : Setting) : List Step → Option Setting → Setting
  | [], below => value.layOver below
  | .entry name :: steps, below =>
    let (origin, entries) := Setting.asTable below
    let name := Text.lower name
    .table origin (KeyMap.place name (putAt value steps (KeyMap.lookup name entries)) entries)
  | .item place :: steps, below =>
    let (origin, items) := Setting.asList below
    let place := placeIn items place
    let items := itemsTo place items
    let item := if steps.isEmpty then value else putAt value steps items[place]?
    .list origin (items.set place item)

def strays : List Step → Option Setting → Bool
  | [], _ => false
  | .entry name :: steps, below =>
    strays steps (KeyMap.lookup (Text.lower name) (Setting.asTable below).2)
  | .item place :: steps, below =>
    let items := (Setting.asList below).2
    decide (items.length + place < 0) ||
      strays steps (itemsTo (placeIn items place) items)[placeIn items place]?

def assign (entries : List (String × Setting)) (name : String) (value : Setting) :
    List (String × Setting) :=
  let path := Path.ofText name
  let first := Text.lower path.first
  KeyMap.place first (putAt value path.steps (KeyMap.lookup first entries)) entries

def assignStrays (entries : List (String × Setting)) (name : String) : Bool :=
  let path := Path.ofText name
  strays path.steps (KeyMap.lookup (Text.lower path.first) entries)

end PackageInstall.Settings
