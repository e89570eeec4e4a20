namespace PackageInstall.Settings.Yaml

inductive Token where
  | version
  | handle (name expansion : String)
  | documentStart
  | documentEnd
  | streamEnd
  | blockSequence
  | blockMapping
  | blockEnd
  | flowSequence
  | flowSequenceEnd
  | flowMapping
  | flowMappingEnd
  | blockEntry
  | flowEntry
  | key
  | value
  | alias (name : String)
  | anchor (name : String)
  | tag (handle suffix : String)
  | scalar (plain : Bool) (text : String)
  deriving DecidableEq

def isBreak (c : Char) : Bool := c = '\n' ∨ c = '\r'

def isBlank (c : Char) : Bool := c = ' ' ∨ c = '\t'

def isFlowMark (c : Char) : Bool := ",[]\x7b\x7d".toList.contains c

def endsLine (next : Option Char) : Bool := next.all isBreak

def endsWord (next : Option Char) : Bool := next.all fun c => isBlank c || isBreak c

structure Candidate where
  position : Nat
  index : Nat
  line : Nat
  column : Nat
  required : Bool

structure Indent where
  around : Int
  /-- Whether a block begins, and not only the column kept for a value. -/
  isBlock : Bool

structure Lexer where
  rest : List Char
  index : Nat
  line : Nat
  column : Nat
  fresh : Bool
  tokens : List Token
  count : Nat
  /-- The column that content must reach; below zero outside all blocks. -/
  indent : Int
  indents : List Indent
  keyAllowed : Bool
  candidates : List (Option Candidate)
  /-- The place where a value may follow its colon without a blank. -/
  adjacent : Nat
  /-- Whether a flow mapping has been announced, so that a colon need not open one. -/
  mappingOpen : Bool
  /-- For each open flow sequence, whether a single entry stands open in it. -/
  entryOpen : List Bool

abbrev Lex := StateT Lexer Option

namespace Lexer

def start (cs : List Char) : Lexer :=
  { rest := cs, index := 0, line := 0, column := 0, fresh := true, tokens := [], count := 0,
    indent := -1, indents := [], keyAllowed := true, candidates := [none], adjacent := 0,
    mappingOpen := false, entryOpen := [] }

def inFlow (l : Lexer) : Bool := 1 < l.candidates.length

def skip (l : Lexer) (n : Nat) : Lexer :=
  { l with rest := l.rest.drop n, index := l.index + n, column := l.column + n, fresh := false }

def skipBlank (l : Lexer) : Lexer :=
  { l with rest := l.rest.drop 1, index := l.index + 1, column := l.column + 1 }

def skipBreak (l : Lexer) : Lexer :=
  let n := if "\r\n".toList.isPrefixOf l.rest then 2 else 1
  { l with rest := l.rest.drop n, index := l.index + n, line := l.line + 1, column := 0,
           fresh := true }

def isIndicator (l : Lexer) (c : Char) : Bool :=
  l.column = 0 && l.rest.take 3 = [c, c, c] && endsWord l.rest[3]?

def isDocumentIndicator (l : Lexer) : Bool := l.isIndicator '-' || l.isIndicator '.'

def push (l : Lexer) (t : Token) : Lexer :=
  { l with tokens := t :: l.tokens, count := l.count + 1 }

def insertAt (l : Lexer) (position : Nat) (t : Token) : Lexer :=
  { l with tokens := l.tokens.insertIdx (l.count - position) t, count := l.count + 1 }

def allowKey (l : Lexer) (allowed : Bool) : Lexer := { l with keyAllowed := allowed }

def candidate (l : Lexer) : Option Candidate := l.candidates.head?.join

def setCandidate (l : Lexer) (k : Option Candidate) : Lexer :=
  { l with candidates := k :: l.candidates.drop 1 }

def leaveWhile (p : Lexer → Indent → Bool) : List Indent → Lexer → Lexer
  | [], l => { l with indents := [] }
  | i :: outer, l =>
    if p l i then
      let l := { l with indent := i.around }
      leaveWhile p outer (if i.isBlock then l.push .blockEnd else l)
    else { l with indents := i :: outer }

def unroll (l : Lexer) (column : Int) : Lexer :=
  if l.inFlow then l else leaveWhile (fun l _ => column < l.indent) l.indents l

def unrollKept (l : Lexer) : Lexer := leaveWhile (fun _ i => !i.isBlock) l.indents l

def keepColumn (l : Lexer) : Lexer :=
  if !l.inFlow && l.indents.head?.any (·.isBlock) then
    { l with indents := ⟨l.indent, false⟩ :: l.indents, indent := l.indent + 1 }
  else l

def openBlock (l : Lexer) (column position : Nat) (t : Token) : Lexer :=
  if l.inFlow then l
  else
    let l := match l.indents with
      | i :: outer =>
        if l.indent ≤ (column : Int) ∧ !i.isBlock then
          { l with indent := i.around, indents := outer }
        else l
      | [] => l
    if l.indent < (column : Int) then
      { l with indents := ⟨l.indent, true⟩ :: l.indents, indent := column }.insertAt position t
    else l

end Lexer

namespace Lex

def peek : Lex (Option Char) := do return (← get).rest.head?

def ahead (n : Nat) : Lex (Option Char) := do return (← get).rest[n]?

def skip (n : Nat) : Lex Unit := modify (·.skip n)

def span (p : Char → Bool) : Lex (List Char) := do
  let run := (← get).rest.takeWhile p
  if !run.isEmpty then skip run.length
  return run

def comment : Lex Unit := do discard (span fun c => !isBreak c)

structure Gap where
  hasTabs : Bool
  hasSpaces : Bool

def restOfLine (tabs : Bool) : Lex Gap := do
  let run := (← get).rest.takeWhile fun c => c = ' ' || (tabs && c = '\t')
  modify fun l => run.foldl (fun l _ => l.skipBlank) l
  if (← peek) = some '#' then
    if run.isEmpty then failure
    comment
  return ⟨run.contains '\t', run.contains ' '⟩

def lineEnd : Lex Unit := do
  if endsLine (← peek) then return () else failure

/-- Passes blanks, comments and breaks. In the indentation of a block a tab may stand only in a line
without content. -/
def passBlanks : Nat → Lex Unit
  | 0 => return ()
  | left + 1 => do
    let l ← get
    match l.rest.head? with
    | none => return ()
    | some c =>
      if c = '\t' ∧ !l.indents.isEmpty ∧ l.fresh ∧ (l.column : Int) < l.indent then
        discard (restOfLine true)
        lineEnd
        passBlanks left
      else if isBlank c then
        modify (·.skipBlank)
        passBlanks left
      else if isBreak c then
        modify (·.skipBreak)
        if !l.inFlow then modify (·.allowKey true)
        passBlanks left
      else if c = '#' then
        comment
        passBlanks left
      else return ()

def toToken : Lex Unit := do passBlanks ((← get).rest.length + 1)

end Lex

end PackageInstall.Settings.Yaml
