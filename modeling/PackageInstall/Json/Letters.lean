import PackageInstall.Json.Fault
import PackageInstall.Text.Utf8

namespace PackageInstall.Json

inductive Escape where
  | plain
  | backslash
  /-- Hexadecimal digits of an escape: how many were read, their value unless one was none, and the
  first half of a pair of escapes. -/
  | hex (count : Nat) (value : Option Nat) (lead : Option Nat)
  | secondBackslash (lead : Nat)
  | secondMark (lead : Nat)
  deriving DecidableEq

structure Letters where
  chars : List Char
  /-- A character that is begun, and the number of bytes before it. -/
  begun : Option (Utf8.Begun × Nat)
  /-- The number of bytes before the first one that is no part of a character. -/
  spoilt : Option Nat
  length : Nat
  escape : Escape
  deriving DecidableEq

namespace Letters

inductive Step where
  | more (letters : Letters)
  | closed (text : String)
  /-- A fault some bytes before the place after the byte. -/
  | fault (fault : Fault) (back : Nat)
  deriving DecidableEq

def empty : Letters := ⟨[], none, none, 0, .plain⟩

def push (l : Letters) (c : Char) : Letters :=
  { l with chars := c :: l.chars, length := l.length + c.utf8Size }

def breakOff (l : Letters) : Letters :=
  match l.begun with
  | none => l
  | some (_, before) => { l with begun := none, spoilt := l.spoilt.or (some before) }

def join (l : Letters) (b : UInt8) : Letters :=
  match l.begun with
  | some (p, before) =>
    match p.next b with
    | .char c => { l with begun := none, chars := c :: l.chars }
    | .more p => { l with begun := some (p, before) }
    | .illFormed => l.breakOff
  | none =>
    match Utf8.first b with
    | .char c => { l with chars := c :: l.chars }
    | .more p => { l with begun := some (p, l.length) }
    | .illFormed => { l with spoilt := l.spoilt.or (some l.length) }

def take (l : Letters) (b : UInt8) : Letters := { l.join b with length := l.length + 1 }

/-- The end of a string. A fault is as far back as there are bytes after the last good character. -/
def close (l : Letters) : Step :=
  match l.breakOff.spoilt with
  | some before => .fault .badCharacter (l.length - before)
  | none => .closed (String.ofList l.chars.reverse)

def hexDigit (b : UInt8) : Option Nat :=
  let n := b.toNat
  if 0x30 ≤ n ∧ n ≤ 0x39 then some (n - 0x30)
  else if 0x41 ≤ n ∧ n ≤ 0x46 then some (n - 0x37)
  else if 0x61 ≤ n ∧ n ≤ 0x66 then some (n - 0x57)
  else none

def named (b : UInt8) : Option Char :=
  match Char.ofNat b.toNat with
  | '"' => some '"'
  | '\\' => some '\\'
  | '/' => some '/'
  | 'b' => some '\x08'
  | 'f' => some '\x0c'
  | 'n' => some '\n'
  | 'r' => some '\r'
  | 't' => some '\t'
  | _ => none

def isLead (n : Nat) : Bool := 0xD800 ≤ n ∧ n < 0xDC00

def isTrail (n : Nat) : Bool := 0xDC00 ≤ n ∧ n < 0xE000

def unit (l : Letters) (value : Option Nat) (lead : Option Nat) : Step :=
  match value, lead with
  | none, _ => .fault .unknownEscape 0
  | some n, none =>
    if isTrail n then .fault .loneSurrogate 0
    else if isLead n then .more { l with escape := .secondBackslash n }
    else .more ({ l with escape := .plain }.push (Char.ofNat n))
  | some n, some lead =>
    if isTrail n then
      .more ({ l with escape := .plain }.push
        (Char.ofNat (0x10000 + (lead - 0xD800) * 0x400 + (n - 0xDC00))))
    else .fault .loneSurrogate 0

def step (l : Letters) (b : UInt8) : Step :=
  match l.escape with
  | .plain =>
    if b = 0x22 then l.close
    else if b = 0x5C then .more { l.breakOff with escape := .backslash }
    else if b.toNat < 0x20 then .fault .controlInString 0
    else .more (l.take b)
  | .backslash =>
    if b = 0x75 then .more { l with escape := .hex 0 (some 0) none }
    else
      match named b with
      | some c => .more ({ l with escape := .plain }.push c)
      | none => .fault .unknownEscape 0
  | .hex count value lead =>
    let value := value.bind fun v => (hexDigit b).map (v * 16 + ·)
    if count < 3 then .more { l with escape := .hex (count + 1) value lead }
    else l.unit value lead
  | .secondBackslash lead =>
    if b = 0x5C then .more { l with escape := .secondMark lead } else .fault .halfSurrogatePair 0
  | .secondMark lead =>
    if b = 0x75 then .more { l with escape := .hex 0 (some 0) (some lead) }
    else .fault .halfSurrogatePair 0

end Letters

end PackageInstall.Json
