import PackageInstall.Settings.Yaml.Lexer

namespace PackageInstall.Settings.Yaml.Lex

inductive Chomping where
  | strip
  | clip
  | keep
  deriving DecidableEq

def chomping : Lex (Option Chomping) := do
  match ← peek with
  | some '+' => skip 1; return some .keep
  | some '-' => skip 1; return some .strip
  | _ => return none

def indentation : Lex (Option Nat) := do
  match ← peek with
  | some c =>
    if c = '0' then failure
    else if c.isDigit then
      skip 1
      return some (c.toNat - 48)
    else return none
  | none => return none

def blockHeader : Lex (Chomping × Option Nat) := do
  match ← chomping with
  | some chomp => return (chomp, ← indentation)
  | none =>
    match ← indentation with
    | some n => return ((← chomping).getD .clip, some n)
    | none => return (.clip, none)

def takeBreak : Lex Bool := do
  if (← peek).any isBreak then
    modify (·.skipBreak)
    return true
  else return false

/-- Passes empty lines and the spaces of the line after them up to a column, or all of them. The
answer tells the greatest column and the number of lines. -/
def emptyLines (upTo : Option Nat) : Nat → Nat → Nat → Lex (Nat × Nat)
  | 0, most, passed => return (most, passed)
  | left + 1, most, passed => do
    let l ← get
    let spaces := (l.rest.takeWhile (· = ' ')).length
    let n := (upTo.map fun column => min spaces (column - l.column)).getD spaces
    modify fun l => n.repeat (·.skipBlank) l
    let most := max most (← get).column
    if ← takeBreak then emptyLines upTo left most (passed + 1) else return (most, passed)

def breaks (n : Nat) : List Char := List.replicate n '\n'

/-- What has been read of the lines: the text, newest first, whether a break came after it, and the
number of empty lines after that. -/
structure Lines where
  text : List Char
  broken : Bool
  empty : Nat
  indented : Bool

def Lines.join (l : Lines) (folded blankFirst : Bool) : List Char :=
  if folded ∧ l.broken ∧ !l.indented ∧ !blankFirst then
    (if l.empty = 0 then [' '] else breaks l.empty) ++ l.text
  else breaks (l.empty + if l.broken then 1 else 0) ++ l.text

def blockLines (folded : Bool) (indent : Nat) : Nat → Lines → Lex Lines
  | 0, found => return found
  | left + 1, found => do
    let l ← get
    if l.column = indent ∧ !l.rest.isEmpty then
      let blankFirst := l.rest.head?.any isBlank
      let content ← span fun c => !isBreak c
      let text := content.reverse ++ found.join folded blankFirst
      if ← takeBreak then
        let (_, empty) ← emptyLines (some indent) (l.rest.length + 1) 0 0
        blockLines folded indent left ⟨text, true, empty, blankFirst⟩
      else return ⟨text, false, 0, blankFirst⟩
    else return found

/-- The content of a scalar whose lines have ended. The last line may be one that the text cuts
off. -/
def Lines.chomp (l : Lines) (cutOff : Bool) (chomp : Chomping) : List Char :=
  let last := (if l.broken then 1 else 0) + if cutOff then 1 else 0
  match chomp with
  | .strip => l.text.reverse
  | .clip => l.text.reverse ++ breaks last
  | .keep => l.text.reverse ++ breaks (last + l.empty)

def withoutLines (chomp : Chomping) (broken : Bool) (empty : Nat) : List Char :=
  match chomp with
  | .strip => []
  | .clip => breaks (if broken then 1 else 0)
  | .keep => if broken then breaks (max empty 1) else []

def blockScalar (folded : Bool) : Lex (List Char) := do
  skip 1
  modify (·.unrollKept)
  let (chomp, given) ← blockHeader
  discard (restOfLine true)
  lineEnd
  let broken ← takeBreak
  if (← peek) = some '\t' then failure
  let l ← get
  let given := given.map fun n => if 0 ≤ l.indent then l.indent.toNat + n else n
  let (most, empty) ← emptyLines given (l.rest.length + 1) 0 0
  let indent := given.getD (max most (l.indent + 1).toNat)
  let l ← get
  if l.rest.isEmpty then return withoutLines chomp broken empty
  if l.column < indent ∧ l.indent < (l.column : Int) then failure
  let found ← blockLines folded indent (l.rest.length + 1) ⟨[], false, empty, false⟩
  let l ← get
  return found.chomp (l.rest.isEmpty ∧ max indent 1 ≤ l.column) chomp

end PackageInstall.Settings.Yaml.Lex
