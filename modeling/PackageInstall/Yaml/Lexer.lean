import PackageInstall.Yaml.Block
import PackageInstall.Yaml.Property
import PackageInstall.Yaml.Source

/-!
From characters to tokens. Outside flow collections indentation opens and closes blocks. A token
may turn out to be a key only when a colon follows it; the tokens that announce a key are then put
in before it. When the text cannot be read on, the tokens before the first one that may still turn
out to be a key are those that stand.
-/

namespace PackageInstall.Yaml

/-- A token that may turn out to be a key. -/
structure Candidate where
  position : Nat
  index : Nat
  line : Nat
  column : Nat
  required : Bool

structure Lexer where
  cursor : Cursor
  broken : Bool
  tokens : List Token
  count : Nat
  indents : List Nat
  keyAllowed : Bool
  candidates : List (Option Candidate)

namespace Lexer

def start (s : Source) : Lexer :=
  { cursor := ⟨s.chars, 0, 0, 0⟩, broken := s.broken, tokens := [], count := 0, indents := [],
    keyAllowed := true, candidates := [none] }

def inFlow (l : Lexer) : Bool := 1 < l.candidates.length

def indent (l : Lexer) : Int :=
  match l.indents with
  | [] => -1
  | n :: _ => n

def column (l : Lexer) : Nat := l.cursor.column

def push (l : Lexer) (t : Token) : Lexer :=
  { l with tokens := t :: l.tokens, count := l.count + 1 }

def place (t : Token) : Nat → List Token → List Token
  | 0, ts => t :: ts
  | n + 1, newest :: ts => newest :: place t n ts
  | _ + 1, [] => [t]

def insertAt (l : Lexer) (position : Nat) (t : Token) : Lexer :=
  { l with tokens := place t (l.count - position) l.tokens, count := l.count + 1 }

def moveTo (l : Lexer) (c : Cursor) : Lexer := { l with cursor := c }

def allowKey (l : Lexer) (allowed : Bool) : Lexer := { l with keyAllowed := allowed }

def candidate (l : Lexer) : Option Candidate := l.candidates.head?.join

def setCandidate (l : Lexer) (k : Option Candidate) : Lexer :=
  { l with candidates := k :: l.candidates.drop 1 }

/-- A key is one line and has at most this many characters. -/
def keyLimit : Nat := 1024

def isStale (c : Cursor) (k : Candidate) : Bool :=
  k.line < c.line || k.index + keyLimit < c.index

/-- Drops the candidates that are too far back. Nothing may be dropped where a key is required. -/
def dropStale (l : Lexer) : Option Lexer :=
  let stale := fun (k : Option Candidate) => k.any (isStale l.cursor)
  if l.candidates.any fun k => stale k && k.any (·.required) then none
  else some { l with candidates := l.candidates.map fun k => if stale k then none else k }

def dropCandidate (l : Lexer) : Option Lexer :=
  if l.candidate.any (·.required) then none else some (l.setCandidate none)

def saveCandidate (l : Lexer) : Option Lexer :=
  if l.keyAllowed then do
    let required := !l.inFlow && l.indent = (l.column : Int)
    let l' ← l.dropCandidate
    some (l'.setCandidate (some ⟨l.count, l.cursor.index, l.cursor.line, l.column, required⟩))
  else some l

def openBlock (l : Lexer) (column position : Nat) (t : Token) : Lexer :=
  if !l.inFlow && l.indent < (column : Int) then
    { l with indents := column :: l.indents }.insertAt position t
  else l

def closeBlocks (column : Int) : List Nat → Lexer → Lexer
  | [], l => { l with indents := [] }
  | n :: rest, l =>
    if column < (n : Int) then closeBlocks column rest (l.push .blockEnd)
    else { l with indents := n :: rest }

def unroll (l : Lexer) (column : Int) : Lexer :=
  if l.inFlow then l else closeBlocks column l.indents l

/-- Passes blanks, comments and breaks. Tabs are no blanks where a key may begin a line. -/
def passBlanks : Nat → Lexer → Lexer
  | 0, l => l
  | left + 1, l =>
    let c := l.cursor
    let c := if c.column = 0 ∧ c.peek = some '\ufeff' then c.skip 1 else c
    let tabs := l.inFlow || !l.keyAllowed
    let c := c.skipWhile fun x => x = ' ' || (tabs && x = '\t')
    let c := if c.peek = some '#' then c.line?.2 else c
    if c.rest ≠ [] ∧ c.breaksAt 0 then
      passBlanks left ((l.moveTo c.takeBreak.2).allowKey (l.keyAllowed || !l.inFlow))
    else l.moveTo c

def mark (l : Lexer) (t : Token) : Lexer := (l.push t).moveTo (l.cursor.skip 1)

def documentMark (l : Lexer) (t : Token) : Option Lexer := do
  let l ← (l.unroll (-1)).dropCandidate
  some (((l.push t).moveTo (l.cursor.skip 3)).allowKey false)

def streamEnd (l : Lexer) : Option Lexer := do
  let l ← (l.unroll (-1)).dropCandidate
  some ((l.push .streamEnd).allowKey false)

def flowStart (l : Lexer) (t : Token) : Option Lexer := do
  let l ← l.saveCandidate
  some (({ l with candidates := none :: l.candidates }.mark t).allowKey true)

def flowEnd (l : Lexer) (t : Token) : Option Lexer := do
  let l ← l.dropCandidate
  let l := if l.inFlow then { l with candidates := l.candidates.drop 1 } else l
  some ((l.mark t).allowKey false)

def flowEntry (l : Lexer) : Option Lexer := do
  let l ← l.dropCandidate
  some ((l.mark .flowEntry).allowKey true)

def blockEntry (l : Lexer) : Option Lexer :=
  if !l.inFlow && !l.keyAllowed then none
  else do
    let l ← (l.openBlock l.column l.count .blockSequence).dropCandidate
    some ((l.mark .blockEntry).allowKey true)

def key (l : Lexer) : Option Lexer :=
  if !l.inFlow && !l.keyAllowed then none
  else do
    let l ← (l.openBlock l.column l.count .blockMapping).dropCandidate
    some ((l.mark .key).allowKey !l.inFlow)

/-- A colon makes the candidate a key, or else stands for a key without text. -/
def value (l : Lexer) : Option Lexer :=
  match l.candidate with
  | some k =>
    let l := (l.insertAt k.position .key).openBlock k.column k.position .blockMapping
    some (((l.setCandidate none).mark .value).allowKey false)
  | none =>
    if !l.inFlow && !l.keyAllowed then none
    else
      let l := l.openBlock l.column l.count .blockMapping
      some ((l.mark .value).allowKey !l.inFlow)

/-- A token that was read up to a place. It does not stand where the stream breaks off. -/
def reached (l : Lexer) (t : Token) (c : Cursor) : Option Lexer :=
  if l.broken && c.rest.isEmpty then none else some ((l.push t).moveTo c)

def property (l : Lexer) (read : Cursor → Option (Token × Cursor)) : Option Lexer := do
  let l ← l.saveCandidate
  let (t, c) ← read l.cursor
  (l.reached t c).map (·.allowKey false)

def directive (l : Lexer) : Option Lexer := do
  let l ← (l.unroll (-1)).dropCandidate
  let (t, c) ← Property.directive l.cursor
  (l.reached t c).map (·.allowKey false)

def blockScalar (l : Lexer) (folded : Bool) : Option Lexer := do
  let l ← l.dropCandidate
  let (text, c) ← Block.read folded l.indent l.cursor
  (l.reached (.scalar false (String.ofList text)) c).map (·.allowKey true)

def quotedScalar (l : Lexer) (double : Bool) : Option Lexer := do
  let l ← l.saveCandidate
  let (text, c) ← Quoted.read double l.cursor
  (l.reached (.scalar false (String.ofList text)) c).map (·.allowKey false)

def plainScalar (l : Lexer) : Option Lexer := do
  let l ← l.saveCandidate
  let (text, brokenAfter, c) ← Plain.read l.inFlow (l.indent + 1) l.cursor
  (l.reached (.scalar true (String.ofList text)) c).map (·.allowKey brokenAfter)

def startsPlain (l : Lexer) : Bool :=
  match l.cursor.peek with
  | none => false
  | some x =>
    let blankNext := l.cursor.blankAt 1
    if x = '-' then !(match l.cursor.ahead 1 with
      | some y => isSpace y
      | none => false)
    else if x = '?' ∨ x = ':' then !l.inFlow && !blankNext
    else !(l.cursor.blankAt 0) && !(",[]\x7b\x7d#&*!|>'\"%@`".toList.contains x)

def token (l : Lexer) (x : Char) : Option Lexer :=
  let blankNext := l.cursor.blankAt 1
  if l.column = 0 ∧ x = '%' then l.directive
  else if l.cursor.isIndicator '-' then l.documentMark .documentStart
  else if l.cursor.isIndicator '.' then l.documentMark .documentEnd
  else if x = '[' then l.flowStart .flowSequence
  else if x = '{' then l.flowStart .flowMapping
  else if x = ']' then l.flowEnd .flowSequenceEnd
  else if x = '}' then l.flowEnd .flowMappingEnd
  else if x = ',' then l.flowEntry
  else if x = '-' ∧ blankNext then l.blockEntry
  else if x = '?' ∧ (l.inFlow ∨ blankNext) then l.key
  else if x = ':' ∧ (l.inFlow ∨ blankNext) then l.value
  else if x = '*' then l.property fun c => (Property.name c).map fun (n, c) => (.alias n, c)
  else if x = '&' then l.property fun c => (Property.name c).map fun (n, c) => (.anchor n, c)
  else if x = '!' then l.property (Property.tag l.inFlow)
  else if x = '|' ∧ !l.inFlow then l.blockScalar false
  else if x = '>' ∧ !l.inFlow then l.blockScalar true
  else if x = '\'' then l.quotedScalar false
  else if x = '"' then l.quotedScalar true
  else if l.startsPlain then l.plainScalar
  else none

def next (l : Lexer) : Option Lexer := do
  let l ← (passBlanks (l.cursor.rest.length + 1) l).dropStale
  let l := l.unroll l.column
  if l.broken && l.cursor.rest.length < 4 then none
  else
    match l.cursor.peek with
    | none => l.streamEnd
    | some x => l.token x

def ended (l : Lexer) : Bool := l.tokens.head? = some .streamEnd

def standing (l : Lexer) : List Token :=
  let open_ := l.candidates.filterMap fun k =>
    k.bind fun k => if isStale l.cursor k && !k.required then none else some k.position
  l.tokens.reverse.take (open_.foldl min l.count)

def run : Nat → Lexer → List Token
  | 0, l => l.standing
  | left + 1, l =>
    match l.next with
    | none => l.standing
    | some l => if l.ended then l.tokens.reverse else run left l

end Lexer

def Token.ofSource (s : Source) : List Token := (Lexer.start s).run (2 * s.chars.length + 2)

end PackageInstall.Yaml
