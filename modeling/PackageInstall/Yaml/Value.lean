import PackageInstall.Decimal.Numeral
import PackageInstall.Json
import PackageInstall.Yaml.Node

namespace PackageInstall.Yaml

namespace Scalar

def isNull (cs : List Char) : Bool :=
  ["null", "Null", "NULL", "~"].any fun s => cs = s.toList

def bool? (cs : List Char) : Option Bool :=
  if ["true", "True", "TRUE"].any fun s => cs = s.toList then some true
  else if ["false", "False", "FALSE"].any fun s => cs = s.toList then some false
  else none

def unsigned (cs : List Char) : List Char :=
  match cs with
  | '+' :: rest | '-' :: rest => rest
  | _ => cs

def isPadded (cs : List Char) : Bool :=
  match unsigned cs with
  | '0' :: rest@(_ :: _) => rest.all Char.isDigit
  | _ => false

def based (cs : List Char) : Option Nat :=
  match cs with
  | '0' :: 'x' :: rest => Numeral.nat 16 rest
  | '0' :: 'o' :: rest => Numeral.nat 8 rest
  | '0' :: 'b' :: rest => Numeral.nat 2 rest
  | _ => none

def whole (cs : List Char) : Option Nat :=
  (based cs).or (if isPadded cs then none else Numeral.nat 10 cs)

def int? (cs : List Char) : Option Int :=
  match cs with
  | '-' :: rest => (whole rest).map fun n => -(n : Int)
  | '+' :: rest => (whole rest).map fun n => (n : Int)
  | _ => (whole cs).map fun n => (n : Int)

inductive Whole where
  | fits (value : Int)
  | tooLarge
  | vast

/-- Numbers past 64 bits are refused, unless 128 bits do not hold them either. -/
def size (n : Int) : Whole :=
  if isInt64 n ∨ (0 ≤ n ∧ n < twoTo 64) then .fits n
  else if fitsSigned 127 n ∨ (0 ≤ n ∧ n < twoTo 128) then .tooLarge
  else .vast

def isInfinity (cs : List Char) : Bool :=
  [".inf", ".Inf", ".INF"].any fun s => unsigned cs = s.toList

def isNaN (cs : List Char) : Bool := [".nan", ".NaN", ".NAN"].any fun s => cs = s.toList

/-- A number with a fraction or an exponent. What is infinite or no number is null. -/
def float? (cs : List Char) : Option Json :=
  if isInfinity cs || isNaN cs then some .null
  else
    match Numeral.float cs with
    | some x => if x.isFinite then some (.float x) else none
    | none => none

def number? (cs : List Char) : Option (Option Json) :=
  match (int? cs).map size with
  | some (.fits n) => some (some (.int n))
  | some .tooLarge => none
  | _ => some (if isPadded cs then none else float? cs)

def plain (cs : List Char) : Option Json :=
  if cs.isEmpty || isNull cs then some .null
  else
    match bool? cs with
    | some b => some (.bool b)
    | none => (number? cs).map (·.getD (.text (String.ofList cs)))

/-- The value of a scalar with a tag. Tags of one's own are refused, and one that only begins so
says nothing. -/
def tagged (tag : Tag) (isPlain : Bool) (cs : List Char) : Option Json :=
  if tag.isOwn then none
  else if tag.head? = some Tag.ownMark ∧ isPlain then plain cs
  else if tag = Tag.core "bool" then (bool? cs).map .bool
  else if tag = Tag.core "int" then
    match (int? cs).map size with
    | some (.fits n) => some (.int n)
    | _ => none
  else if tag = Tag.core "float" then float? cs
  else if tag = Tag.core "null" then if isNull cs then some .null else none
  else some (.text (String.ofList cs))

def value (tag : Option Tag) (isPlain : Bool) (text : String) : Option Json :=
  match tag with
  | some tag => tagged tag isPlain text.toList
  | none => if isPlain then plain text.toList else some (.text text)

end Scalar

namespace Document

abbrev Evaluation := StateT Nat Option

/-- Nodes per node of the document that aliases may bring in. -/
def expansionLimit : Nat := 100

def depthLimit : Nat := 128

def target (d : Document) (anchor : Nat) : Evaluation Node := do
  let followed := (← get) + 1
  set followed
  if d.size * expansionLimit < followed then failure
  else
    match d.find anchor with
    | some node => return node
    | none => failure

def resolve (d : Document) (node : Node) : Evaluation Node :=
  match node with
  | .alias anchor => d.target anchor
  | node => return node

def key (d : Document) (node : Node) : Evaluation String := do
  match ← d.resolve node with
  | .scalar _ _ text => return text
  | _ => failure

/-- The value of a node inside which collections nest at most so deep. Collections with a tag of
one's own are refused. -/
def valueOf (d : Document) : Nat → Node → Evaluation Json
  | depth, node => do
    match ← d.resolve node, depth with
    | .scalar tag isPlain text, _ => StateT.lift (Scalar.value tag isPlain text)
    | .sequence tag items, depth + 1 =>
      if tag.any Tag.isOwn then failure
      else return .array (← items.mapM (d.valueOf depth))
    | .mapping tag entries, depth + 1 =>
      if tag.any Tag.isOwn then failure
      else
        let fields ← entries.mapM fun e => do
          let name ← d.key e.1
          return (name, ← d.valueOf depth e.2)
        return .ofFields fields
    | _, _ => failure

def value (d : Document) : Option Json := ((d.valueOf depthLimit d.root).run 0).map (·.1)

end Document

end PackageInstall.Yaml
