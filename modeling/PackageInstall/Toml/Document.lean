import PackageInstall.Text.Scan
import PackageInstall.Toml.Item
import PackageInstall.Toml.Scalar

namespace PackageInstall.Toml

open Text (Scan)

def isGap (c : Char) : Bool := c = ' ' ∨ c = '\t'

def gap : Scan Unit := Scan.skip isGap

def isShown (c : Char) : Bool := c = '\t' ∨ (0x20 ≤ c.toNat ∧ c.toNat ≠ 0x7F)

def lineEnd : Scan Bool := Scan.accept "\n" <||> Scan.accept "\r\n"

def comment : Scan Unit := do
  if ← Scan.accept "#" then Scan.skip isShown

def endOfLine : Scan Unit := do
  gap
  comment
  if ← Scan.atEnd then return ()
  if ← lineEnd then return () else failure

def spread : Scan Unit := do
  discard <| Scan.many do
    gap
    comment
    if ← lineEnd then return some () else return none

def escapeOf (digits : Nat) : Scan Char := do
  let cs ← Scan.exactly (fun c => (Numeral.digit 16 c).isSome) digits
  match Numeral.nat 16 cs with
  | some n => if n.isValidChar then return Char.ofNat n else failure
  | none => failure

def escape : Scan Char := do
  match ← Scan.next with
  | 'b' => return '\x08'
  | 't' => return '\t'
  | 'n' => return '\n'
  | 'f' => return '\x0c'
  | 'r' => return '\r'
  | '"' => return '"'
  | '\\' => return '\\'
  | 'u' => escapeOf 4
  | 'U' => escapeOf 8
  | _ => failure

def basicChar : Scan (Option Char) := do
  let c ← Scan.next
  if c = '"' then return none
  else if c = '\\' then some <$> escape
  else if isShown c then return some c
  else failure

def literalChar : Scan (Option Char) := do
  let c ← Scan.next
  if c = '\'' then return none
  else if isShown c then return some c
  else failure

/-- The quotes that belong to a text of several lines, and whether it ends after them. Three quotes
end it, with up to two before them. -/
def quotes (quote : Char) : Scan (List Char × Bool) := do
  let n := ((← Scan.rest).takeWhile (· = quote)).length
  if n < 3 then
    discard <| Scan.exactly (· = quote) n
    return (List.replicate n quote, false)
  else
    discard <| Scan.exactly (· = quote) (min n 5)
    return (List.replicate (min n 5 - 3) quote, true)

def isBlankLine : Scan Bool := do
  let cs := (← Scan.rest).dropWhile isGap
  return cs.head? = some '\n' || "\r\n".toList.isPrefixOf cs

/-- A backslash at the end of a line goes on to the next character that shows. -/
def continued : Scan Unit := do
  discard <| Scan.many do
    gap
    if ← lineEnd then return some () else return none

def lineChars (quote : Char) (escapes : Bool) : Scan (List Char) := do
  if ← lineEnd then return ['\n']
  let c ← Scan.next
  if c = '\\' ∧ escapes then
    if ← isBlankLine then
      continued
      return []
    else return [← escape]
  else if isShown c ∧ c ≠ quote then return [c]
  else failure

def linesFrom (quote : Char) (escapes : Bool) : Nat → Scan (List Char)
  | 0 => failure
  | left + 1 => do
    if (← Scan.peek) = some quote then
      let (cs, ended) ← quotes quote
      if ended then return cs else return cs ++ (← linesFrom quote escapes left)
    else
      let cs ← lineChars quote escapes
      return cs ++ (← linesFrom quote escapes left)

/-- An end of line right after the opening quotes does not count. -/
def lines (quote : Char) (escapes : Bool) : Scan String := do
  discard lineEnd
  return String.ofList (← linesFrom quote escapes ((← Scan.rest).length + 1))

def shortText : Scan (Option String) := do
  if ← Scan.accept "\"" then return some (String.ofList (← Scan.many basicChar))
  else if ← Scan.accept "'" then return some (String.ofList (← Scan.many literalChar))
  else return none

def text : Scan (Option String) := do
  if ← Scan.accept "\"\"\"" then some <$> lines '"' true
  else if ← Scan.accept "'''" then some <$> lines '\'' false
  else shortText

def isBare (c : Char) : Bool := c.isAlphanum ∨ c = '_' ∨ c = '-'

def name : Scan String := do
  match ← shortText with
  | some s => return s
  | none => return String.ofList (← Scan.some isBare)

/-- Values nest at most this deep, and keys lead at most as deep. -/
def depthLimit : Nat := 79

def key : Scan (List String × String) := do
  gap
  let first ← name
  gap
  let more ← Scan.many do
    if ← Scan.accept "." then
      gap
      let next ← name
      gap
      return some next
    else return none
  let names := first :: more
  if depthLimit < names.length then failure
  return (names.dropLast, names.getLastD first)

def isWordChar (c : Char) : Bool := isBare c ∨ c = '+' ∨ c = '.' ∨ c = ':'

def word : Scan Json := do
  let first ← Scan.some isWordChar
  let rest ← Scan.rest
  let later := rest.drop 1
  let isSpread := (Scalar.date first).any (·.2.isEmpty) ∧ rest.head? = some ' ' ∧
    (Scalar.clock (later.takeWhile isWordChar)).isSome
  let cs ← if isSpread then
      Scan.char ' '
      pure (first ++ ' ' :: (← Scan.some isWordChar))
    else pure first
  match Scalar.ofWord cs with
  | some v => return v
  | none => failure

def items (value : Scan Json) : Scan (List Json) := do
  spread
  let all ← Scan.many do
    if ← Scan.isNext "]" then return none
    let v ← value
    spread
    if !(← Scan.accept ",") then
      if !(← Scan.isNext "]") then failure
    spread
    return some v
  Scan.expect "]"
  return all

def pair (value : Scan Json) : Scan ((List String × String) × Json) := do
  let k ← key
  Scan.expect "="
  gap
  let v ← value
  gap
  return (k, v)

/-- The pairs of a table on one line, after its brace. No comma stands after the last. -/
def pairs (value : Scan Json) : Scan (List ((List String × String) × Json)) := do
  gap
  if ← Scan.accept "\x7d" then return []
  let first ← pair value
  let more ← Scan.many do
    if ← Scan.accept "," then some <$> pair value else return none
  Scan.expect "\x7d"
  return first :: more

def inlineTable (all : List ((List String × String) × Json)) : Option Json :=
  let entries := all.foldlM (fun entries p => Entries.putAt p.1.1 p.1.2 p.2 .stated entries) []
  entries.map fun entries => .object (entriesToJson entries)

def simpleValue : Scan Json := do
  if let some s ← text then return .text s else word

def value : Nat → Scan Json
  | 0 => simpleValue
  | depth + 1 => do
    if ← Scan.accept "[" then return .array (← items (value depth))
    else if ← Scan.accept "\x7b" then
      match inlineTable (← pairs (value depth)) with
      | some v => return v
      | none => failure
    else simpleValue

inductive Line where
  | blank
  | pair (path : List String) (name : String) (value : Json)
  | table (path : List String) (name : String)
  | element (path : List String) (name : String)

def header : Scan Line := do
  if ← Scan.accept "[[" then
    let (path, name) ← key
    Scan.expect "]]"
    return .element path name
  else
    Scan.expect "["
    let (path, name) ← key
    Scan.expect "]"
    return .table path name

def line : Scan (Option Line) := do
  if ← Scan.atEnd then return none
  gap
  let found ← match ← Scan.peek with
    | none | some '#' | some '\n' | some '\r' => pure Line.blank
    | some '[' => header
    | _ => do
      let ((path, name), v) ← pair (value depthLimit)
      pure (Line.pair path name v)
  endOfLine
  return some found

structure Draft where
  entries : Entries
  current : List String

namespace Draft

def start : Draft := ⟨[], []⟩

def change (d : Draft) (path : List String) (change : Entries.Change) : Option Entries :=
  Entries.within false change path .stated d.entries

def add (d : Draft) : Line → Option Draft
  | .blank => some d
  | .pair path name v =>
    (d.change d.current (Entries.putAt path name v)).map fun entries => { d with entries }
  | .table path name =>
    (d.change path (Entries.state name)).map fun entries => ⟨entries, path ++ [name]⟩
  | .element path name =>
    (d.change path (Entries.append name)).map fun entries => ⟨entries, path ++ [name]⟩

end Draft

def read (cs : List Char) : Option Json := do
  let found ← Scan.all (Scan.many line) (if cs.head? = some '\uFEFF' then cs.drop 1 else cs)
  let d ← found.foldlM Draft.add .start
  return .object (entriesToJson d.entries)

end PackageInstall.Toml
