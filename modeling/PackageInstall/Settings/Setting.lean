import PackageInstall.Json
import PackageInstall.Text.Lower

/-!
Values that settings are set to. Each knows where it was set, so that a message can tell. Laying one
over another keeps what only the lower one has: tables go into tables entry by entry, anything else
takes the place of what stood there. The names of entries have no case.
-/

namespace PackageInstall

/-- Where a value was set. Values of the program itself have no origin. -/
inductive Origin where
  | environment
  | file (name : String)
  deriving DecidableEq

def Origin.name : Origin → String
  | environment => "the environment"
  | file name => name

inductive Atom where
  | null
  | bool (value : Bool)
  | int (value : Int)
  | float (value : Binary64)
  | text (value : String)
  deriving DecidableEq

def Atom.ofInt (n : Int) : Atom :=
  if isInt64 n then int n
  else float (.ofMagnitude (n < 0) (Binary64.roundNat n.natAbs))

inductive Setting where
  | atom (origin : Option Origin) (value : Atom)
  | list (origin : Option Origin) (items : List Setting)
  | table (origin : Option Origin) (entries : List (String × Setting))
  deriving Inhabited

namespace Setting

def nothing : Setting := atom none .null

/-- The origin and the entries of a table. Anything else gives way to a new table. -/
def asTable : Option Setting → Option Origin × List (String × Setting)
  | some (table origin entries) => (origin, entries)
  | _ => (none, [])

def asList : Option Setting → Option Origin × List Setting
  | some (list origin items) => (origin, items)
  | _ => (none, [])

mutual

/-- What stands in a place once a value is laid over what stood there. A table without entries
changes nothing. -/
def layOver : Setting → Option Setting → Setting
  | table _ entries, below =>
    if entries.isEmpty then below.getD (table none [])
    else table (asTable below).1 (entriesOver entries (asTable below).2)
  | value, _ => value

def entriesOver : List (String × Setting) → List (String × Setting) → List (String × Setting)
  | [], below => below
  | (name, value) :: rest, below =>
    let name := Text.lower name
    entriesOver rest (KeyMap.place name (layOver value (KeyMap.lookup name below)) below)

end

mutual

def ofJson (origin : Origin) : Json → Setting
  | .null => atom origin .null
  | .bool b => atom origin (.bool b)
  | .int n => atom origin (.ofInt n)
  | .float x => atom origin (.float x)
  | .text s => atom origin (.text s)
  | .array items => list origin (ofItems origin items)
  | .object fields => table origin (ofFields origin fields)

def ofItems (origin : Origin) : List Json → List Setting
  | [] => []
  | v :: rest => ofJson origin v :: ofItems origin rest

def ofFields (origin : Origin) : List (String × Json) → List (String × Setting)
  | [] => []
  | (name, v) :: rest => (name, ofJson origin v) :: ofFields origin rest

end

end Setting

end PackageInstall
