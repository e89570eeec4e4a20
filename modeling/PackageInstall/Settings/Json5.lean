import PackageInstall.Decimal.Numeral
import PackageInstall.Json
import PackageInstall.Text.Blank
import PackageInstall.Text.Name
import PackageInstall.Text.Scan

namespace PackageInstall.Settings.Json5

open Text (Scan)

def isLineEnd (c : Char) : Bool := c = '\n' ∨ c = '\r' ∨ c = '\u2028' ∨ c = '\u2029'

/-- The mark of byte order is a blank, and the next-line character is none. -/
def isSpace (c : Char) : Bool := (Text.isBlank c && c ≠ '\u0085') || c = '\ufeff'

def afterComment : List Char → Option (List Char)
  | '*' :: '/' :: rest => some rest
  | _ :: rest => afterComment rest
  | [] => none

def space : Scan Unit := do
  discard <| Scan.many do
    Scan.skip isSpace
    if ← Scan.accept "//" then
      Scan.skip (!isLineEnd ·)
      return some ()
    else if ← Scan.accept "/*" then
      set (← StateT.lift (afterComment (← Scan.rest)))
      return some ()
    else return none

/-- A part of a text. Two units of sixteen bits may stand for one character. -/
inductive Piece where
  | char (c : Char)
  | unit (n : Nat)

namespace Piece

def join : List Piece → Option (List Char)
  | [] => some []
  | .char c :: rest => (c :: ·) <$> join rest
  | .unit lead :: .unit trail :: rest =>
    if lead.isValidChar then (Char.ofNat lead :: ·) <$> join (.unit trail :: rest)
    else if lead < 0xDC00 ∧ 0xDC00 ≤ trail ∧ trail < 0xE000 then
      (Char.ofNat (0x10000 + (lead - 0xD800) * 0x400 + (trail - 0xDC00)) :: ·) <$> join rest
    else none
  | .unit n :: rest =>
    if n.isValidChar then (Char.ofNat n :: ·) <$> join rest else none

def text (pieces : List Piece) : Scan String := String.ofList <$> StateT.lift (join pieces)

end Piece

def code (digits : Nat) : Scan Nat := do
  let cs ← Scan.exactly (fun c => (Numeral.digit 16 c).isSome) digits
  StateT.lift (Numeral.nat 16 cs)

def meaning (c : Char) : Char :=
  match c with
  | 'b' => '\x08'
  | 'f' => '\x0c'
  | 'n' => '\n'
  | 'r' => '\r'
  | 't' => '\t'
  | 'v' => '\x0b'
  | '0' => '\x00'
  | c => c

def escape : Scan (List Piece) := do
  let c ← Scan.next
  if c = 'x' then return [.char (Char.ofNat (← code 2))]
  else if c = 'u' then return [.unit (← code 4)]
  else if c = '\r' then
    discard (Scan.accept "\n")
    return []
  else if isLineEnd c then return []
  else if c.isDigit ∧ c ≠ '0' then failure
  else return [.char (meaning c)]

def quoted (quote : Char) : Scan String := do
  let pieces ← Scan.many do
    let c ← Scan.next
    if c = quote then return none
    else if c = '\\' then some <$> escape
    else if isLineEnd c then failure
    else return some [.char c]
  Piece.text pieces.flatten

def namePiece? (p : Char → Bool) : Scan (Option Piece) := do
  if ← Scan.accept "\\u" then return some (.unit (← code 4))
  match ← Scan.peek with
  | some c =>
    if p c then
      discard Scan.next
      return some (.char c)
    else return none
  | none => return none

def name : Scan String := do
  match ← namePiece? Text.isNameStart with
  | some first => Piece.text (first :: (← Scan.many (namePiece? Text.isNamePart)))
  | none => failure

def quoted? : Scan (Option String) := do
  if ← Scan.accept "\"" then some <$> quoted '"'
  else if ← Scan.accept "'" then some <$> quoted '\''
  else return none

def key : Scan String := do
  match ← quoted? with
  | some text => return text
  | none => name

/-- Digits, of which the first may be zero only if it is the last. -/
def whole : Scan (List Char) := do
  let digits ← Scan.span Char.isDigit
  if 1 < digits.length ∧ digits.head? = some '0' then failure else return digits

def fraction : Scan (List Char) := do
  if ← Scan.accept "." then return '.' :: (← Scan.span Char.isDigit) else return []

def sign : Scan (List Char) := do
  if ← Scan.accept "-" then return ['-']
  else if ← Scan.accept "+" then return ['+']
  else return []

def exponent : Scan (List Char) := do
  if ← Scan.acceptAny ["e", "E"] then
    return 'e' :: (← sign) ++ (← Scan.some Char.isDigit)
  else return []

/-- A number with a fraction or an exponent must be finite, and one without them must fit in 64
bits. -/
def decimal (sign : List Char) : Scan Json := do
  let digits ← whole
  let rest := (← fraction) ++ (← exponent)
  let cs := sign ++ digits ++ rest
  if rest.isEmpty then
    let n ← StateT.lift (Numeral.int 10 cs)
    if isInt64 n then return .int n else failure
  else
    let x ← StateT.lift (Numeral.float cs)
    if x.isFinite then return .float x else failure

def unbounded (sign : List Char) (word : String) : Scan Json := do
  if sign = ['+'] then failure
  .float <$> StateT.lift (Numeral.float (sign ++ word.toList))

/-- A hexadecimal number has no sign and at most 32 bits. -/
def number : Scan Json := do
  let sign ← sign
  if ← Scan.acceptAny ["0x", "0X"] then
    let n ← StateT.lift (Numeral.nat 16 (← Scan.span fun c => (Numeral.digit 16 c).isSome))
    if sign.isEmpty ∧ n ≤ 0xFFFFFFFF then return .int n else failure
  else if ← Scan.accept "Infinity" then unbounded sign "inf"
  else if ← Scan.accept "NaN" then unbounded sign "nan"
  else decimal sign

def field (item : Scan Json) : Scan (String × Json) := do
  let key ← key
  space
  Scan.char ':'
  space
  return (key, ← item)

def value : Nat → Scan Json
  | 0 => failure
  | left + 1 => do
    if ← Scan.accept "null" then return .null
    else if ← Scan.accept "true" then return .bool true
    else if ← Scan.accept "false" then return .bool false
    else if let some text ← quoted? then return .text text
    else if ← Scan.accept "[" then .array <$> Scan.listed space ']' (value left)
    else if ← Scan.accept "\x7b" then .ofFields <$> Scan.listed space '\x7d' (field (value left))
    else number

def read (cs : List Char) : Option Json :=
  Scan.all (do
    space
    let v ← value (cs.length + 1)
    space
    return v) cs

end PackageInstall.Settings.Json5
