import PackageInstall.Decimal.Numeral
import PackageInstall.Settings.Yaml.Lexer

namespace PackageInstall.Settings.Yaml

/-- What stands between two parts of a scalar. -/
inductive Spacing where
  | blanks (cs : List Char)
  | breaks (more : Nat)
  | escaped (more : Nat)

namespace Spacing

def none : Spacing := blanks []

def isBroken : Spacing → Bool
  | blanks _ => false
  | _ => true

def addBlank (c : Char) : Spacing → Spacing
  | blanks cs => blanks (c :: cs)
  | s => s

def addBreak : Spacing → Spacing
  | blanks _ => breaks 0
  | breaks n => breaks (n + 1)
  | escaped n => escaped (n + 1)

def text : Spacing → List Char
  | blanks cs => cs.reverse
  | breaks 0 => [' ']
  | breaks n => List.replicate n '\n'
  | escaped n => List.replicate n '\n'

end Spacing

namespace Lex

/-- Passes blanks and breaks. What is done about a tab before the column `indent` of a line is told
apart. -/
def spacing (indent : Int) (early : Lex Unit) : Nat → Spacing → Lex Spacing
  | 0, s => return s
  | left + 1, s => do
    let l ← get
    match l.rest.head? with
    | none => return s
    | some c =>
      if isBlank c then
        if s.isBroken ∧ c = '\t' ∧ (l.column : Int) < indent then early
        else modify (·.skipBlank)
        spacing indent early left (s.addBlank c)
      else if isBreak c then
        modify (·.skipBreak)
        spacing indent early left s.addBreak
      else return s

def plainRun (flow : Bool) : List Char → List Char
  | [] => []
  | c :: rest =>
    if isBlank c || isBreak c then []
    else if c = ':' && (endsWord rest.head? || (flow && rest.head?.any isFlowMark)) then []
    else if flow && isFlowMark c then []
    else c :: plainRun flow rest

def onlyBlanks : Lex Unit := do
  discard (restOfLine true)
  lineEnd

def plainFrom (indent : Int) : Nat → List Char → Spacing → Lex (List Char)
  | 0, _, _ => failure
  | left + 1, done, s => do
    let l ← get
    if l.isDocumentIndicator || l.rest.head? = some '#' then return (← finish s done)
    if l.inFlow ∧ l.rest.head? = some '-' ∧ l.rest[1]?.any isFlowMark then failure
    let run := plainRun l.inFlow l.rest
    if !run.isEmpty then skip run.length
    let done := if run.isEmpty then done else run.reverse ++ s.text.reverse ++ done
    let s := if run.isEmpty then s else .none
    match (← peek) with
    | none => finish s done
    | some c =>
      if isBlank c || isBreak c then
        let s ← spacing indent onlyBlanks (l.rest.length + 1) s
        if !l.inFlow ∧ ((← get).column : Int) < indent then finish s done
        else plainFrom indent left done s
      else finish s done
where
  /-- After a break a key may begin. -/
  finish (s : Spacing) (done : List Char) : Lex (List Char) := do
    if s.isBroken then modify (·.allowKey true)
    return done.reverse

def plain : Lex (List Char) := do
  modify (·.unrollKept)
  let l ← get
  let indent := l.indent + 1
  if l.inFlow ∧ (l.column : Int) < indent then failure
  plainFrom indent (l.rest.length + 1) [] .none

def escapedLetter (c : Char) : Option Char :=
  match c with
  | '0' => some '\x00'
  | 'a' => some '\x07'
  | 'b' => some '\x08'
  | 't' | '\t' => some '\t'
  | 'n' => some '\n'
  | 'v' => some '\x0b'
  | 'f' => some '\x0c'
  | 'r' => some '\r'
  | 'e' => some '\x1b'
  | ' ' | '"' | '/' | '\\' => some c
  | 'N' => some '\x85'
  | '_' => some '\xa0'
  | 'L' => some '\u2028'
  | 'P' => some '\u2029'
  | _ => none

def codeLength (c : Char) : Option Nat :=
  match c with
  | 'x' => some 2
  | 'u' => some 4
  | 'U' => some 8
  | _ => none

def escape : Lex Char := do
  let letter ← StateT.lift ((← get).rest[1]?)
  skip 2
  match escapedLetter letter with
  | some c => return c
  | none =>
    let n ← StateT.lift (codeLength letter)
    let code := (← get).rest.take n
    match Numeral.nat 16 code with
    | some value =>
      if code.length = n ∧ value.isValidChar then
        skip n
        return Char.ofNat value
      else failure
    | none => failure

/-- Reads characters up to a blank, a break, the closing quote or an escaped break, and tells
whether it was the last. The characters stand newest first. -/
def quotedRun (double : Bool) : Nat → List Char → Lex (List Char × Bool)
  | 0, done => return (done, false)
  | left + 1, done => do
    let l ← get
    match l.rest.head? with
    | none => return (done, false)
    | some c =>
      let next := l.rest[1]?
      if isBlank c || isBreak c then return (done, false)
      else if !double ∧ c = '\'' then
        if next = some '\'' then
          skip 2
          quotedRun double left ('\'' :: done)
        else return (done, false)
      else if double ∧ c = '"' then return (done, false)
      else if double ∧ c = '\\' then
        if next.any isBreak then
          skip 1
          modify (·.skipBreak)
          return (done, true)
        else quotedRun double left ((← escape) :: done)
      else
        skip 1
        quotedRun double left (c :: done)

def quotedFrom (double : Bool) : Nat → List Char → Lex (List Char)
  | 0, _ => failure
  | left + 1, done => do
    let l ← get
    if l.isDocumentIndicator || l.rest.isEmpty || (l.column : Int) < l.indent then failure
    let (done, escapedBreak) ← quotedRun double l.rest.length done
    if (← peek) = some (if double then '"' else '\'') then return done.reverse
    let s ← spacing l.indent failure (l.rest.length + 1)
      (if escapedBreak then .escaped 0 else .none)
    quotedFrom double left (s.text.reverse ++ done)

/-- A scalar in quotes. Nothing but the end of a line or a mark may follow it; outside flow
collections a key stands in one line. -/
def quoted (double : Bool) : Lex (List Char) := do
  let l ← get
  skip 1
  let text ← quotedFrom double (l.rest.length + 1) []
  skip 1
  discard (restOfLine true)
  let after ← get
  match after.rest.head? with
  | none => return text
  | some c =>
    if isBreak c then return text
    else if c = ':' ∧ (l.inFlow ∨ l.line = after.line) then return text
    else if l.inFlow ∧ (c = ',' ∨ c = ']' ∨ c = '\x7d') then return text
    else failure

end Lex

end PackageInstall.Settings.Yaml
