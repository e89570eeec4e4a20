import PackageInstall.Yaml.Cursor

namespace PackageInstall.Yaml.Block

inductive Chomping where
  | strip
  | clip
  | keep
  deriving DecidableEq

structure Header where
  chomping : Chomping
  indentation : Option Nat

def chomping (c : Cursor) : Option Chomping :=
  match c.peek with
  | some '+' => some .keep
  | some '-' => some .strip
  | _ => none

def indentation (c : Cursor) : Option (Option Nat) :=
  match c.peek with
  | some '0' => none
  | some x => if x.isDigit then some (some (x.toNat - 48)) else some none
  | none => some none

def moved (c : Cursor) (found : Option α) : Cursor := if found.isSome then c.skip 1 else c

def header (c : Cursor) : Option (Header × Cursor) := do
  match chomping c with
  | some chomp =>
    let c := c.skip 1
    let indent ← indentation c
    some (⟨chomp, indent⟩, moved c indent)
  | none =>
    let indent ← indentation c
    let c := moved c indent
    let chomp := if indent.isSome then chomping c else none
    some (⟨chomp.getD .clip, indent⟩, moved c chomp)

def headerEnd (c : Cursor) : Option Cursor :=
  let c := c.skipWhile isSpace
  let c := if c.peek = some '#' then c.line?.2 else c
  if c.breaksAt 0 then some c.takeBreak.2 else none

/-- Passes empty lines and the indentation of the line after them. Without a known indentation all
spaces count, and the greatest column is told. A tab in the indentation is refused. -/
def emptyLines (indent : Nat) :
    Nat → Nat → List Char → Cursor → Option (Nat × List Char × Cursor)
  | 0, most, breaks, c => some (most, breaks, c)
  | left + 1, most, breaks, c =>
    let spaces := (c.rest.takeWhile (· = ' ')).length
    let passed := if indent = 0 then spaces else min spaces (indent - c.column)
    let c := c.skip passed
    let most := max most c.column
    if (indent = 0 ∨ c.column < indent) ∧ c.peek = some '\t' then none
    else if c.rest ≠ [] ∧ c.breaksAt 0 then
      let (text, next) := c.takeBreak
      emptyLines indent left most (text.reverse ++ breaks) next
    else some (most, breaks, c)

structure Lines where
  text : List Char
  lastBreak : List Char
  breaks : List Char
  /-- Whether the last line began with a blank, so that it is not joined to the next. -/
  indented : Bool

def Lines.join (l : Lines) (folded blankFirst : Bool) : List Char :=
  if folded ∧ l.lastBreak = ['\n'] ∧ l.indented = false ∧ blankFirst = false then
    (if l.breaks.isEmpty then [' '] else l.breaks) ++ l.text
  else l.breaks ++ l.lastBreak ++ l.text

def lines (folded : Bool) (indent : Nat) : Nat → Lines → Cursor → Option (Lines × Cursor)
  | 0, l, c => some (l, c)
  | left + 1, l, c =>
    if c.column = indent ∧ c.rest ≠ [] then
      let blankFirst := c.blankAt 0 && !c.breaksAt 0
      let (content, c) := c.line?
      let (text, c) := c.takeBreak
      match emptyLines indent c.rest.length 0 [] c with
      | none => none
      | some (_, breaks, c) =>
        lines folded indent left
          ⟨content.reverse ++ l.join folded blankFirst, text, breaks, blankFirst⟩ c
    else some (l, c)

def Lines.chomp (l : Lines) : Chomping → List Char
  | .strip => l.text.reverse
  | .clip => l.text.reverse ++ l.lastBreak
  | .keep => l.text.reverse ++ l.lastBreak ++ l.breaks.reverse

/-- The indentation of the lines: the one given, or that of the first line that is not empty, or of
the longest empty one before it. -/
def content (folded : Bool) (around : Int) (h : Header) (c : Cursor) :
    Option (List Char × Cursor) := do
  let given := match h.indentation with
    | some n => if 0 ≤ around then around.toNat + n else n
    | none => 0
  let (most, breaks, c) ← emptyLines given (c.rest.length + 1) 0 [] c
  let indent := if given = 0 then max (max most (around + 1).toNat) 1 else given
  let (l, c) ← lines folded indent c.rest.length ⟨[], [], breaks, false⟩ c
  some (l.chomp h.chomping, c)

def read (folded : Bool) (around : Int) (c : Cursor) : Option (List Char × Cursor) := do
  let (h, c) ← header (c.skip 1)
  let c ← headerEnd c
  content folded around h c

end PackageInstall.Yaml.Block
