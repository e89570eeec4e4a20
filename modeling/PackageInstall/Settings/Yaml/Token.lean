import PackageInstall.Settings.Yaml.Block
import PackageInstall.Settings.Yaml.Property
import PackageInstall.Settings.Yaml.Scalar
import PackageInstall.Text.Letter

namespace PackageInstall.Settings.Yaml

namespace Lex

/-- Outside flow collections a key is one line and has at most this many characters. -/
def keyLimit : Nat := 1024

def dropStale : Lex Unit := do
  let l ← get
  if !l.inFlow then
    let stale (k : Candidate) : Bool := k.line < l.line || k.index + keyLimit < l.index
    if l.candidates.any (·.any fun k => stale k && k.required) then failure
    set { l with candidates := l.candidates.map (Option.filter fun k => !stale k) }

def dropCandidate : Lex Unit := do
  if (← get).candidate.any (·.required) then failure
  modify (·.setCandidate none)

def saveCandidate : Lex Unit := do
  let l ← get
  if l.keyAllowed then
    let required := !l.inFlow && l.indent = (l.column : Int) && l.indents.head?.any (·.isBlock)
    dropCandidate
    modify (·.setCandidate (some ⟨l.count, l.index, l.line, l.column, required⟩))

def allowKey (allowed : Bool) : Lex Unit := modify (·.allowKey allowed)

def push (t : Token) : Lex Unit := modify (·.push t)

def endEntry : Lex Unit := do
  let l ← get
  match l.entryOpen with
  | true :: rest =>
    set { l with entryOpen := false :: rest, mappingOpen := false }
    push .flowMappingEnd
  | _ => return ()

def flowLimit : Nat := 255

def flowStart (t : Token) : Lex Unit := do
  saveCandidate
  modify (·.keepColumn)
  modify fun l => { l with candidates := none :: l.candidates }
  if flowLimit + 1 < (← get).candidates.length then failure
  allowKey true
  skip 1
  if t = .flowMapping then modify fun l => { l with mappingOpen := true }
  else modify fun l => { l with entryOpen := false :: l.entryOpen }
  discard (restOfLine true)
  push t

def flowEnd (t : Token) : Lex Unit := do
  dropCandidate
  if (← get).inFlow then modify fun l => { l with candidates := l.candidates.drop 1 }
  allowKey false
  if t = .flowSequenceEnd then
    endEntry
    modify fun l => { l with entryOpen := l.entryOpen.drop 1 }
  skip 1
  discard (restOfLine true)
  let l ← get
  if l.inFlow then set { l with adjacent := l.index }
  push t

def flowEntry : Lex Unit := do
  dropCandidate
  allowKey true
  endEntry
  skip 1
  discard (restOfLine true)
  push .flowEntry

def blockEntry : Lex Unit := do
  let l ← get
  if l.inFlow || !l.keyAllowed then failure
  skip 1
  modify (·.openBlock l.column l.count .blockSequence)
  let gap ← restOfLine true
  if gap.hasTabs ∧ (← peek) = some '-' ∧ endsWord (← ahead 1) then failure
  if (← peek).any fun c => isBreak c || isFlowMark c then modify (·.keepColumn)
  dropCandidate
  allowKey true
  push .blockEntry

def keySpace : Nat → Bool → Lex Unit
  | 0, _ => failure
  | left + 1, found => do
    let l ← get
    match l.rest.head? with
    | none => if found then return () else failure
    | some c =>
      if c = ' ' then
        modify (·.skipBlank)
        keySpace left true
      else if isBreak c then
        modify (·.skipBreak)
        if !l.inFlow then allowKey true
        keySpace left true
      else if c = '#' then
        comment
        keySpace left found
      else if !found ∨ c = '\t' then failure
      else return ()

def key : Lex Unit := do
  let l ← get
  if !l.inFlow then
    if !l.keyAllowed then failure
    modify (·.openBlock l.column l.count .blockMapping)
  else modify fun l => { l with mappingOpen := true }
  dropCandidate
  allowKey !l.inFlow
  skip 1
  keySpace (l.rest.length + 1) false
  push .key

/-- A tab after a colon must be followed by a blank, or by no word. -/
def valueSpace : Lex Unit := do
  if (← peek) = some '\t' then
    let gap ← restOfLine true
    if !gap.hasSpaces ∧ (← peek).any fun c => c = '-' || Text.isLetter c then failure

/-- A colon makes the candidate a key, or else stands for a key without text. Among the items of a
flow sequence it makes an entry of its own. -/
def value : Lex Unit := do
  let l ← get
  let isEntry := !l.entryOpen.isEmpty && !l.mappingOpen
  if isEntry then modify fun l => { l with entryOpen := true :: l.entryOpen.drop 1 }
  skip 1
  valueSpace
  match l.candidate with
  | some k =>
    modify (·.insertAt k.position .key)
    if isEntry then
      if k.line < l.line then failure
      modify (·.insertAt k.position .flowMapping)
    modify (·.openBlock k.column k.position .blockMapping)
    modify (·.keepColumn)
    modify (·.setCandidate none)
    allowKey false
  | none =>
    if isEntry then push .flowMapping
    if !l.inFlow then
      if !l.keyAllowed then failure
      modify fun m => m.openBlock l.column m.count .blockMapping
    modify (·.keepColumn)
    allowKey !l.inFlow
  push .value

def property (read : Lex Token) : Lex Unit := do
  saveCandidate
  allowKey false
  push (← read)

def blockScalarToken (folded : Bool) : Lex Unit := do
  saveCandidate
  allowKey true
  push (.scalar false (String.ofList (← blockScalar folded)))

/-- After a scalar in quotes a colon needs no blank. -/
def quotedToken (double : Bool) : Lex Unit := do
  saveCandidate
  allowKey false
  let text ← quoted double
  toToken
  modify fun l => { l with adjacent := l.index }
  push (.scalar false (String.ofList text))

def plainToken : Lex Unit := do
  saveCandidate
  allowKey false
  push (.scalar true (String.ofList (← plain)))

def leaveBlocks : Lex Unit := do
  modify (·.unroll (-1))
  dropCandidate
  allowKey false

def documentStart : Lex Unit := do
  leaveBlocks
  skip 3
  push .documentStart

def documentEnd : Lex Unit := do
  leaveBlocks
  skip 3
  push .documentEnd
  discard (restOfLine true)
  lineEnd

def streamEnd : Lex Unit := do
  if (← get).candidates.any (·.any (·.required)) then failure
  leaveBlocks
  push .streamEnd

def directiveToken : Lex Unit := do
  leaveBlocks
  push (← directive)

def partsEntry (l : Lexer) (next : Option Char) : Bool :=
  l.inFlow && (next.any isFlowMark || l.index = l.adjacent)

def token (c : Char) : Lex Unit := do
  let l ← get
  let next := l.rest[1]?
  if l.column = 0 ∧ c = '%' then directiveToken
  else if l.isIndicator '-' then documentStart
  else if l.isIndicator '.' then documentEnd
  else if (l.column : Int) < l.indent then failure
  else if c = '[' then flowStart .flowSequence
  else if c = '{' then flowStart .flowMapping
  else if c = ']' then flowEnd .flowSequenceEnd
  else if c = '}' then flowEnd .flowMappingEnd
  else if c = ',' then flowEntry
  else if c = '-' ∧ endsWord next then blockEntry
  else if c = '?' ∧ endsWord next then key
  else if c = ':' ∧ (endsWord next || partsEntry l next) then value
  else if c = '*' then property (Token.alias <$> anchorName)
  else if c = '&' then property (Token.anchor <$> anchorName)
  else if c = '!' then property tag
  else if c = '|' ∧ !l.inFlow then blockScalarToken false
  else if c = '>' ∧ !l.inFlow then blockScalarToken true
  else if c = '\'' then quotedToken false
  else if c = '"' then quotedToken true
  else if "%@`".toList.contains c then failure
  else plainToken

def next : Lex Unit := do
  toToken
  dropStale
  modify fun l => l.unroll l.column
  match ← peek with
  | none => streamEnd
  | some c => token c

def run : Nat → Lex (List Token)
  | 0 => failure
  | left + 1 => do
    next
    let l ← get
    if l.tokens.head? = some .streamEnd then return l.tokens.reverse else run left

end Lex

def Token.ofText (cs : List Char) : Option (List Token) :=
  let cs := cs.takeWhile (· ≠ '\x00')
  (StateT.run (Lex.run (2 * cs.length + 2)) (.start cs)).map (·.1)

end PackageInstall.Settings.Yaml
