import PackageInstall.Yaml.Scalar
import PackageInstall.Yaml.Token

namespace PackageInstall.Yaml.Property

def name (c : Cursor) : Option (String × Cursor) :=
  let (run, next) := (c.skip 1).span isWord
  let ends := next.blankAt 0 || (match next.peek with
    | some x => "?:,]\x7d%@`".toList.contains x
    | none => false)
  if run.isEmpty || !ends then none else some (String.ofList run, next)

def isTagChar (bracketed : Bool) (c : Char) : Bool :=
  isWord c || ";/?:@&=+$.%!~*'()".toList.contains c || (bracketed && ",[]".toList.contains c)

def escapedByte (cs : List Char) : Option Nat :=
  match cs with
  | '%' :: a :: b :: _ => do
    let high ← Quoted.hexValue a
    let low ← Quoted.hexValue b
    some (high * 16 + low)
  | _ => none

def isTail (n : Nat) : Bool := 0x80 ≤ n ∧ n < 0xC0

def escapedTail : Nat → List Char → Option Tag
  | 0, _ => some []
  | owed + 1, cs => do
    let byte ← escapedByte cs
    if isTail byte then return UInt8.ofNat byte :: (← escapedTail owed (cs.drop 3)) else none

def owedAfter (lead : Nat) : Option Nat :=
  if lead < 0x80 then some 0
  else if lead < 0xC0 then none
  else if lead < 0xE0 then some 1
  else if lead < 0xF0 then some 2
  else if lead < 0xF8 then some 3
  else none

/-- The bytes of an escaped character, each told by three signs. They need have the shape only of a
character. -/
def escapedChar (cs : List Char) : Option Tag := do
  let lead ← escapedByte cs
  return UInt8.ofNat lead :: (← escapedTail (← owedAfter lead) (cs.drop 3))

def tagBytes (bracketed : Bool) : Nat → Tag → Cursor → Option (Tag × Cursor)
  | 0, done, c => some (done, c)
  | left + 1, done, c =>
    match c.peek with
    | none => some (done, c)
    | some x =>
      if isTagChar bracketed x = false then some (done, c)
      else if x = '%' then
        match escapedChar c.rest with
        | none => none
        | some bytes => tagBytes bracketed left (bytes.reverse ++ done) (c.skip (3 * bytes.length))
      else tagBytes bracketed left (UInt8.ofNat x.toNat :: done) (c.skip 1)

def suffix (bracketed : Bool) (head : List Char) (c : Cursor) : Option (Tag × Cursor) := do
  let (done, next) ← tagBytes bracketed (c.rest.length + 1) [] c
  if head.isEmpty ∧ done.isEmpty then none
  else some (Tag.untilZero (Utf8.encode (head.drop 1) ++ done.reverse), next)

def handle (c : Cursor) : Option (List Char × Cursor) :=
  if c.peek = some '!' then
    let (run, next) := (c.skip 1).span isWord
    if next.peek = some '!' then some ('!' :: run ++ ['!'], next.skip 1)
    else some ('!' :: run, next)
  else none

def isHandle (head : List Char) : Bool := 1 < head.length && head.getLast? = some '!'

/-- A tag in brackets stands for itself, and so does a lone mark. -/
def tagBody (c : Cursor) : Option (Token × Cursor) :=
  if c.ahead 1 = some '<' then do
    let (name, c) ← suffix true [] (c.skip 2)
    if c.peek = some '>' then some (.tag "" name, c.skip 1) else none
  else do
    let (head, c) ← handle c
    if isHandle head then
      let (name, c) ← suffix false [] c
      some (.tag (String.ofList head) name, c)
    else
      let (name, c) ← suffix false head c
      if name.isEmpty then some (.tag "" [Tag.ownMark], c) else some (.tag "!" name, c)

def tag (flow : Bool) (c : Cursor) : Option (Token × Cursor) := do
  let (token, c) ← tagBody c
  if c.blankAt 0 || (flow && c.peek = some ',') then some (token, c) else none

def versionPart (c : Cursor) : Option (Nat × Cursor) :=
  let (digits, next) := c.span Char.isDigit
  if digits.isEmpty ∨ 9 < digits.length then none
  else some (digits.foldl (fun n x => n * 10 + (x.toNat - 48)) 0, next)

def version (c : Cursor) : Option (Token × Cursor) := do
  let (major, c) ← versionPart (c.skipWhile isSpace)
  if c.peek = some '.' then
    let (minor, c) ← versionPart (c.skip 1)
    some (.version major minor, c)
  else none

def handleDirective (c : Cursor) : Option (Token × Cursor) := do
  let (head, c) ← handle (c.skipWhile isSpace)
  if head ≠ ['!'] ∧ head.getLast? ≠ some '!' then none
  else if c.breaksAt 0 || !c.blankAt 0 then none
  else
    let (expansion, c) ← suffix true [] (c.skipWhile isSpace)
    if c.blankAt 0 then some (.handle (String.ofList head) expansion, c) else none

def directive (c : Cursor) : Option (Token × Cursor) := do
  let (name, c) := (c.skip 1).span isWord
  if c.blankAt 0 = false then none
  else
    let (token, c) ←
      if name = "YAML".toList then version c
      else if name = "TAG".toList then handleDirective c
      else none
    let c := c.skipWhile isSpace
    let c := if c.peek = some '#' then c.line?.2 else c
    if c.breaksAt 0 then some (token, c.takeBreak.2) else none

end PackageInstall.Yaml.Property
