import PackageInstall.Decimal.Numeral
import PackageInstall.Json
import PackageInstall.Text.Blank
import PackageInstall.Text.Scan

namespace PackageInstall.Settings.Ini

open Text (Scan)

structure Section where
  name : Option String
  entries : List (String × String)

def codeOf (cs : List Char) : Option Nat :=
  match cs with
  | '+' :: rest => Numeral.nat 16 rest
  | _ => Numeral.nat 16 cs

/-- What a backslash and the characters after it stand for. A backslash joins a line to the next. -/
def escape : Scan (List Char) := do
  match ← Scan.next with
  | '0' => return ['\x00']
  | 'a' => return ['\x07']
  | 'b' => return ['\x08']
  | 't' => return ['\t']
  | 'r' => return ['\r']
  | 'n' => return ['\n']
  | '\n' => return []
  | 'x' =>
    match codeOf (← Scan.exactly (fun _ => true) 4) with
    | some n => if n.isValidChar then return [Char.ofNat n] else failure
    | none => failure
  | c => return [c]

def textUntil (stops : List Char) (orEnd : Bool) : Scan (List Char) := do
  let parts ← Scan.many do
    match ← Scan.peek with
    | none => if orEnd then return none else failure
    | some c =>
      if stops.contains c then return none
      else
        discard Scan.next
        if c = '\\' then some <$> escape else return some [c]
  return parts.flatten

def restOfLine : Scan (List Char) := textUntil ['\n', '\r'] true

def gap : Scan Unit := Scan.skip fun c => Text.isBlank c && c ≠ '\n' && c ≠ '\r'

def value : Scan (List Char) := do
  gap
  match ← Scan.peek with
  | some c =>
    if c = '"' ∨ c = '\'' then
      discard Scan.next
      let quoted ← textUntil [c] false
      discard Scan.next
      return quoted ++ (← restOfLine)
    else restOfLine
  | none => return []

def trimmed (cs : List Char) : String := String.ofList (Text.trim cs)

structure Draft where
  before : List Section
  current : Section
  /-- A key that waits for its sign; without one it is empty. -/
  key : String
  fresh : Bool

namespace Draft

def start : Draft := ⟨[], ⟨none, []⟩, "", true⟩

def openSection (d : Draft) (name : String) : Draft :=
  { d with before := d.current :: d.before, current := ⟨some name, []⟩, fresh := false }

def add (d : Draft) (text : String) : Draft :=
  { d with current := { d.current with entries := (d.key, text) :: d.current.entries },
           key := "", fresh := false }

def next (d : Draft) (c : Char) : Scan Draft := do
  if c = ';' ∨ c = '#' then
    if !d.fresh then failure
    Scan.skip (· ≠ '\n')
    discard (Scan.accept "\n")
    return { d with fresh := true }
  else if c = '[' then
    discard Scan.next
    let name ← textUntil [']'] false
    discard Scan.next
    return d.openSection (trimmed name)
  else if c = '=' ∨ c = ':' then
    if d.key.isEmpty then failure
    discard Scan.next
    return d.add (trimmed (← value))
  else return { d with key := trimmed (← textUntil ['=', ':'] false), fresh := false }

def readFrom : Nat → Draft → Scan Draft
  | 0, _ => failure
  | left + 1, d => do
    let blanks ← Scan.span Text.isBlank
    let fresh := (blanks.getLast?.map (· == '\n')).getD d.fresh
    match ← Scan.peek with
    | none => return d
    | some c => readFrom left (← { d with fresh }.next c)

end Draft

def textFields (entries : List (String × String)) : List (String × Json) :=
  entries.reverse.map fun e => (e.1, .text e.2)

def Section.fields (s : Section) : List (String × Json) :=
  match s.name with
  | none => textFields s.entries
  | some name => [(name, .ofFields (textFields s.entries))]

def Draft.value (d : Draft) : Json :=
  .ofFields ((d.current :: d.before).reverse.flatMap Section.fields)

def read (cs : List Char) : Option Json :=
  (Scan.all (Draft.readFrom (cs.length + 1) .start) cs).map Draft.value

end PackageInstall.Settings.Ini
