import PackageInstall.Decimal.Numeral
import PackageInstall.Settings.Yaml.Lexer

namespace PackageInstall.Settings.Yaml.Lex

def isNameChar (c : Char) : Bool :=
  !(isBlank c || isBreak c || isFlowMark c || c = '\uFEFF')

def anchorName : Lex String := do
  skip 1
  let run ← span isNameChar
  if run.isEmpty then failure else return String.ofList run

def isWordChar (c : Char) : Bool := c.isAlphanum ∨ c = '_' ∨ c = '-'

def isUriChar (c : Char) : Bool :=
  (isWordChar c && c ≠ '_') || "#;/?:@&=+$,_.!~*'()[]%".toList.contains c

def isTagChar (c : Char) : Bool := isUriChar c && !isFlowMark c && c ≠ '!'

def escapedByte : Lex Nat := do
  match (← get).rest with
  | '%' :: a :: b :: _ =>
    match Numeral.nat 16 [a, b] with
    | some byte =>
      skip 3
      return byte
    | none => failure
  | _ => failure

def owedAfter (lead : Nat) : Option Nat :=
  if lead < 0x80 then some 0
  else if lead < 0xC0 then none
  else if lead < 0xE0 then some 1
  else if lead < 0xF0 then some 2
  else if lead < 0xF8 then some 3
  else none

def escapedTail (code : Nat) : Nat → Lex Nat
  | 0 => return code
  | owed + 1 => do
    let byte ← escapedByte
    if 0x80 ≤ byte ∧ byte < 0xC0 then escapedTail (code * 256 + byte) owed else failure

def escapedChar : Lex Char := do
  let lead ← escapedByte
  let code ← escapedTail lead (← StateT.lift (owedAfter lead))
  if code.isValidChar then return Char.ofNat code else failure

def tagChars (p : Char → Bool) : Nat → Lex (List Char)
  | 0 => return []
  | left + 1 => do
    match ← peek with
    | some c =>
      if !p c then return []
      else if c = '%' then
        let c ← escapedChar
        return c :: (← tagChars p left)
      else
        skip 1
        return c :: (← tagChars p left)
    | none => return []

def tagRun (p : Char → Bool) : Lex (List Char) := do tagChars p (← get).rest.length

def tagHandle : Lex (List Char) := do
  if (← peek) = some '!' then
    skip 1
    let run ← span isWordChar
    if (← peek) = some '!' then
      skip 1
      return '!' :: run ++ ['!']
    else return '!' :: run
  else failure

def isHandle (head : List Char) : Bool := 1 < head.length && head.getLast? = some '!'

def tagBody : Lex Token := do
  if (← ahead 1) = some '<' then
    skip 2
    let name ← tagRun isUriChar
    if (← peek) = some '>' then
      skip 1
      return .tag "" (String.ofList name)
    else failure
  else
    let head ← tagHandle
    let run ← tagRun isTagChar
    if isHandle head then return .tag (String.ofList head) (String.ofList run)
    else
      let name := head.drop 1 ++ run
      if name.isEmpty then return .tag "" "!" else return .tag "!" (String.ofList name)

def tag : Lex Token := do
  let token ← tagBody
  let next ← peek
  if endsWord next || ((← get).inFlow && next.any isFlowMark) then return token else failure

def versionPart : Lex Unit := do
  let digits ← span Char.isDigit
  if digits.isEmpty ∨ 9 < digits.length then failure

def version : Lex Token := do
  discard (span isBlank)
  versionPart
  if (← peek) = some '.' then
    skip 1
    versionPart
    return .version
  else failure

def expansion : Lex (List Char) := do
  match ← peek with
  | some c =>
    if c = '!' then
      skip 1
      return c :: (← tagRun isUriChar)
    else if isTagChar c then tagRun isUriChar
    else failure
  | none => failure

def handleDirective : Lex Token := do
  discard (span isBlank)
  let head ← tagHandle
  if head ≠ ['!'] ∧ !isHandle head then failure
  discard (span isBlank)
  let text ← expansion
  if endsWord (← peek) then return .handle (String.ofList head) (String.ofList text) else failure

/-- A directive, up to the end of its line. One of an unknown name says nothing. -/
def directive : Lex Token := do
  skip 1
  let name ← span isWordChar
  if name.isEmpty || !endsWord (← peek) then failure
  let token ←
    if name = "YAML".toList then version
    else if name = "TAG".toList then handleDirective
    else do
      comment
      pure (.handle "" "")
  discard (restOfLine true)
  lineEnd
  if !(← get).rest.isEmpty then modify (·.skipBreak)
  return token

end PackageInstall.Settings.Yaml.Lex
