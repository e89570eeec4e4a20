import PackageInstall.Decimal.Numeral
import PackageInstall.Json

namespace PackageInstall.Settings.Yaml

inductive Value where
  | null
  | bool (value : Bool)
  | int (value : Int)
  /-- A number that is no whole one within 64 bits, as it is written. -/
  | number (text : List Char)
  | text (text : String)
  | list (items : List Value)
  | table (entries : List (Value × Value))
  | bad
  deriving Inhabited

namespace Value

def whole (base : Nat) (cs : List Char) : Option Int := (Numeral.int base cs).filter isInt64

/-- A mark of the base comes before the sign. -/
def int? (cs : List Char) : Option Int :=
  let based := match cs with
    | '0' :: 'x' :: rest => whole 16 rest
    | '0' :: 'o' :: rest => whole 8 rest
    | '+' :: rest => whole 10 rest
    | _ => none
  based.or (whole 10 cs)

def boundless : List String :=
  [".inf", ".Inf", ".INF", "+.inf", "+.Inf", "+.INF", "-.inf", "-.Inf", "-.INF", ".nan", "NaN",
    ".NAN"]

def number? (cs : List Char) : Option Value :=
  if String.ofList cs ∈ boundless ∨ (Numeral.float cs).isSome then some (number cs) else none

def bool? (cs : List Char) : Option Bool :=
  if cs = "true".toList then some true
  else if cs = "false".toList then some false
  else none

def isNull (cs : List Char) : Bool := cs = "~".toList ∨ cs = "null".toList

def ofPlain (cs : List Char) : Value :=
  if isNull cs then null
  else
    match int? cs, bool? cs with
    | some n, _ => int n
    | none, some b => bool b
    | none, none => (number? cs).getD (text (String.ofList cs))

structure Tag where
  handle : String
  suffix : String
  deriving DecidableEq

def ofTagged (tag : Tag) (cs : List Char) : Value :=
  if tag.handle ≠ "tag:yaml.org,2002:" then text (String.ofList cs)
  else if tag.suffix = "bool" then ((bool? cs).map bool).getD bad
  else if tag.suffix = "int" then ((whole 10 cs).map int).getD bad
  else if tag.suffix = "float" then (number? cs).getD bad
  else if tag.suffix = "null" then (if isNull cs then null else bad)
  else text (String.ofList cs)

def ofScalar (tag : Option Tag) (isPlain : Bool) (s : String) : Value :=
  match isPlain, tag with
  | false, _ => text s
  | true, some tag => ofTagged tag s.toList
  | true, none => ofPlain s.toList

def isBad : Value → Bool
  | bad => true
  | _ => false

def isSameKey : Value → Value → Bool
  | text s, text t => s = t
  | int m, int n => m = n
  | _, _ => false

/-- The entries of a table from its nodes, of which keys and values take turns. Where a key is bad
the next node is the key. -/
def entriesFrom (done : List (Value × Value)) (key : Value) :
    List Value → Option (List (Value × Value))
  | [] => some done.reverse
  | node :: rest =>
    if key.isBad then entriesFrom done node rest
    else if done.any fun e => isSameKey e.1 key then none
    else entriesFrom ((key, node) :: done) bad rest

def ofNodes (nodes : List Value) : Option Value := (entriesFrom [] bad nodes).map table

def key? : Value → Option String
  | text s => some s
  | int n => some (toString n)
  | _ => none

mutual

/-- The value as any format has it. The words for numbers without bounds are none. -/
def toJson : Value → Option Json
  | null | bad => some .null
  | bool b => some (.bool b)
  | int n => some (.int n)
  | number cs => (Numeral.float cs).map .float
  | text s => some (.text s)
  | list items => (itemsToJson items).map .array
  | table entries => (entriesToJson entries).map .ofFields

def itemsToJson : List Value → Option (List Json)
  | [] => some []
  | v :: rest => do return (← v.toJson) :: (← itemsToJson rest)

def entriesToJson : List (Value × Value) → Option (List (String × Json))
  | [] => some []
  | (k, v) :: rest => do return (← k.key?, ← v.toJson) :: (← entriesToJson rest)

end

end Value

end PackageInstall.Settings.Yaml
