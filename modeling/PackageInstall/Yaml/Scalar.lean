import PackageInstall.Yaml.Cursor

namespace PackageInstall.Yaml

structure Gap where
  blanks : List Char
  broken : Bool
  first : List Char
  more : List Char

namespace Gap

def none : Gap := ⟨[], false, [], []⟩

def escaped : Gap := ⟨[], true, [], []⟩

def addBlank (g : Gap) (c : Char) : Gap :=
  if g.broken then g else { g with blanks := c :: g.blanks }

def addBreak (g : Gap) (text : List Char) : Gap :=
  if g.broken then { g with more := text.reverse ++ g.more }
  else { g with broken := true, blanks := [], first := text }

def text (g : Gap) : List Char :=
  if g.broken = false then g.blanks.reverse
  else if g.first = ['\n'] then (if g.more.isEmpty then [' '] else g.more.reverse)
  else g.first ++ g.more.reverse

/-- Passes blanks and breaks. After a break no tab may stand before the column `indent`. -/
def pass (indent : Int) : Nat → Gap → Cursor → Option (Gap × Cursor)
  | 0, g, c => some (g, c)
  | left + 1, g, c =>
    match c.peek with
    | Option.none => some (g, c)
    | some x =>
      if isSpace x then
        if g.broken ∧ x = '\t' ∧ (c.column : Int) < indent then Option.none
        else pass indent left (g.addBlank x) (c.skip 1)
      else if isBreak x then
        let (text, next) := c.takeBreak
        pass indent left (g.addBreak text) next
      else some (g, c)

end Gap

namespace Plain

def isFlowMark (c : Char) : Bool := c = ',' ∨ c = '[' ∨ c = ']' ∨ c = '{' ∨ c = '}'

/-- The characters up to a blank, a break or a character that ends the scalar. Inside a flow
collection a colon right before one of its marks is refused. -/
def run (flow : Bool) : List Char → Option (List Char)
  | [] => some []
  | c :: rest =>
    let blankNext := match rest.head? with
      | none => true
      | some x => isSpace x || isBreak x
    let markNext := match rest.head? with
      | none => false
      | some x => isFlowMark x || x = '?'
    if isSpace c || isBreak c then some []
    else if flow && c = ':' && markNext then none
    else if (c = ':' && blankNext) || (flow && isFlowMark c) then some []
    else (run flow rest).map (c :: ·)

/-- Reads on, given the text so far, newest first, and the gap after it. The answer also tells
whether the last gap held a break. -/
def readFrom (flow : Bool) (indent : Int) :
    Nat → List Char → Gap → Cursor → Option (List Char × Bool × Cursor)
  | 0, done, g, c => some (done.reverse, g.broken, c)
  | left + 1, done, g, c =>
    if c.isDocumentIndicator || c.peek = some '#' then some (done.reverse, g.broken, c)
    else
      match run flow c.rest with
      | none => none
      | some part =>
        let next := c.skip part.length
        let joined := if part.isEmpty then done else part.reverse ++ g.text.reverse ++ done
        let gap := if part.isEmpty then g else Gap.none
        match next.peek with
        | none => some (joined.reverse, gap.broken, next)
        | some x =>
          if isSpace x || isBreak x then
            match gap.pass indent next.rest.length next with
            | none => none
            | some (gap, next) =>
              if !flow && (next.column : Int) < indent then some (joined.reverse, gap.broken, next)
              else readFrom flow indent left joined gap next
          else some (joined.reverse, gap.broken, next)

def read (flow : Bool) (indent : Int) (c : Cursor) : Option (List Char × Bool × Cursor) :=
  readFrom flow indent c.rest.length [] Gap.none c

end Plain

namespace Quoted

def named (c : Char) : Option Char :=
  match c with
  | '0' => some '\x00'
  | 'a' => some '\x07'
  | 'b' => some '\x08'
  | 't' | '\t' => some '\t'
  | 'n' => some '\n'
  | 'v' => some '\x0b'
  | 'f' => some '\x0c'
  | 'r' => some '\r'
  | 'e' => some '\x1b'
  | ' ' => some ' '
  | '"' => some '"'
  | '/' => some '/'
  | '\\' => some '\\'
  | 'N' => some '\x85'
  | '_' => some '\xa0'
  | 'L' => some '\u2028'
  | 'P' => some '\u2029'
  | _ => none

def digits (c : Char) : Option Nat :=
  match c with
  | 'x' => some 2
  | 'u' => some 4
  | 'U' => some 8
  | _ => none

def hexValue (c : Char) : Option Nat :=
  if c.isDigit then some (c.toNat - 48)
  else if 'a' ≤ c ∧ c ≤ 'f' then some (c.toNat - 87)
  else if 'A' ≤ c ∧ c ≤ 'F' then some (c.toNat - 55)
  else none

def hexNumber (cs : List Char) : Option Nat :=
  cs.foldlM (fun n c => (hexValue c).map (n * 16 + ·)) 0

def escape (c : Cursor) : Option (Char × Cursor) := do
  let letter ← c.peek
  match named letter with
  | some x => some (x, c.skip 1)
  | none =>
    let n ← digits letter
    let code := (c.skip 1).rest.take n
    let value ← hexNumber code
    if code.length = n ∧ value.isValidChar then some (Char.ofNat value, c.skip (1 + n)) else none

/-- Reads characters up to a blank, a break, the closing quote or an escaped break. The answer tells
the text so far, newest first, and whether it ended with an escaped break. -/
def run (double : Bool) : Nat → List Char → Cursor → Option (List Char × Bool × Cursor)
  | 0, done, c => some (done, false, c)
  | left + 1, done, c =>
    match c.peek with
    | none => some (done, false, c)
    | some x =>
      if isSpace x || isBreak x then some (done, false, c)
      else if !double && x = '\'' then
        if c.ahead 1 = some '\'' then run double left ('\'' :: done) (c.skip 2)
        else some (done, false, c)
      else if double && x = '"' then some (done, false, c)
      else if double && x = '\\' then
        let next := c.skip 1
        if next.rest ≠ [] ∧ next.breaksAt 0 then some (done, true, next.takeBreak.2)
        else
          match escape next with
          | none => none
          | some (x, next) => run double left (x :: done) next
      else run double left (x :: done) (c.skip 1)

def readFrom (double : Bool) : Nat → List Char → Cursor → Option (List Char × Cursor)
  | 0, _, _ => none
  | left + 1, done, c =>
    if c.isDocumentIndicator || c.rest.isEmpty then none
    else
      match run double c.rest.length done c with
      | none => none
      | some (done, escapedBreak, next) =>
        if next.peek = some (if double then '"' else '\'') then
          some (done.reverse, next.skip 1)
        else
          match (if escapedBreak then Gap.escaped else Gap.none).pass 0 next.rest.length next with
          | none => none
          | some (gap, next) => readFrom double left (gap.text.reverse ++ done) next

def read (double : Bool) (c : Cursor) : Option (List Char × Cursor) :=
  readFrom double c.rest.length [] (c.skip 1)

end Quoted

end PackageInstall.Yaml
