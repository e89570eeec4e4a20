import PackageInstall.Decimal.Power
import PackageInstall.Timestamp

namespace PackageInstall.Timestamp

open Calendar

inductive Fault where
  | outOfRange
  | impossible
  | tooShort
  | invalid
  | tooLong
  deriving DecidableEq

def Fault.message : Fault → String
  | outOfRange => "input is out of range"
  | impossible => "no possible date and time matching input"
  | tooShort => "premature end of input"
  | invalid => "input contains invalid characters"
  | tooLong => "trailing input"

def valueOf (digits : List Char) : Nat :=
  digits.foldl (fun n c => n * 10 + (c.toNat - '0'.toNat)) 0

def readDigits (width : Option Nat) (cs : List Char) : Except Fault (List Char × List Char) :=
  let run := cs.takeWhile Char.isDigit
  let taken := match width with
    | some w => run.take w
    | none => run
  if cs.isEmpty then .error .tooShort
  else if taken.isEmpty then .error .invalid
  else .ok (taken, cs.drop taken.length)

def readNumber (low high : Nat) (cs : List Char) : Except Fault (Nat × List Char) := do
  let (taken, rest) ← readDigits (some 2) (Text.trimStart cs)
  let n := valueOf taken
  if low ≤ n ∧ n ≤ high then .ok (n, rest) else .error .outOfRange

def yearBound : Nat := 0x80000000

/-- A year of up to four digits, or of any number of them after a sign. -/
def readYear (cs : List Char) : Except Fault (Int × List Char) :=
  match Text.trimStart cs with
  | '-' :: rest => do
    let (taken, rest) ← readDigits none rest
    if valueOf taken ≤ yearBound then .ok (-(valueOf taken : Int), rest) else .error .outOfRange
  | '+' :: rest => do
    let (taken, rest) ← readDigits none rest
    if valueOf taken < yearBound then .ok ((valueOf taken : Int), rest) else .error .outOfRange
  | cs => do
    let (taken, rest) ← readDigits (some 4) cs
    .ok ((valueOf taken : Int), rest)

def readSeparator (c : Char) (cs : List Char) : Except Fault (List Char) :=
  match Text.trimStart cs with
  | [] => .error .tooShort
  | d :: rest => if d = c then .ok rest else .error .invalid

def readDate (cs : List Char) : Except Fault (Date × List Char) := do
  let (y, cs) ← readYear cs
  let cs ← readSeparator '-' cs
  let (m, cs) ← readNumber 1 12 cs
  let cs ← readSeparator '-' cs
  let (d, cs) ← readNumber 1 31 cs
  .ok (⟨y, m, d⟩, cs)

/-- Digits of a fraction past the ninth are dropped. -/
def readFraction (cs : List Char) : Except Fault (Nat × List Char) :=
  match cs with
  | '.' :: rest => do
    let (taken, rest) ← readDigits (some 9) rest
    .ok (valueOf taken * tenTo (9 - taken.length), rest.dropWhile Char.isDigit)
  | cs => .ok (0, cs)

def readClock (cs : List Char) : Except Fault (Clock × List Char) := do
  let (h, cs) ← readNumber 0 23 cs
  let cs ← readSeparator ':' cs
  let (m, cs) ← readNumber 0 59 cs
  let cs ← readSeparator ':' cs
  let (s, cs) ← readNumber 0 60 cs
  let (n, cs) ← readFraction cs
  .ok (⟨h, m, s, n⟩, cs)

def readPair (cs : List Char) : Except Fault ((Nat × Nat) × List Char) :=
  match cs with
  | [] => .error .tooShort
  | a :: rest =>
    match rest with
    | [] => if a.toNat < 0x80 then .error .tooShort else .error .invalid
    | b :: rest =>
      if a.isDigit ∧ b.isDigit then .ok ((a.toNat - 48, b.toNat - 48), rest)
      else .error .invalid

def isOffsetSeparator (c : Char) : Bool := c = ':' ∨ Text.isBlank c

def readSigned (west : Bool) (cs : List Char) : Except Fault (Int × List Char) := do
  let ((h1, h2), cs) ← readPair cs
  let ((m1, m2), cs) ← readPair (cs.dropWhile isOffsetSeparator)
  if m1 < 6 then
    let minutes : Int := (h1 * 10 + h2) * 60 + m1 * 10 + m2
    .ok (if west then -minutes else minutes, cs)
  else .error .outOfRange

def isUniversal (cs : List Char) : Bool := (cs.take 3).map Char.toUpper = ['U', 'T', 'C']

def readOffset (cs : List Char) : Except Fault (Int × List Char) :=
  let cs := Text.trimStart cs
  if isUniversal cs then .ok (0, cs.drop 3)
  else
    match cs with
    | [] => .error .tooShort
    | c :: rest =>
      if c = 'Z' ∨ c = 'z' then .ok (0, rest)
      else if c = '+' then readSigned false rest
      else if c = '-' ∨ c = '\u2212' then readSigned true rest
      else .error .invalid

def toUniversal (d : Date) (c : Clock) (east : Int) : Date × Clock :=
  let minutes : Int := c.hour * 60 + c.minute - east
  let day := if minutes < 0 then d.previous else if 1440 ≤ minutes then d.next else d
  let inDay := (minutes % 1440).toNat
  (day, { c with hour := inDay / 60, minute := inDay % 60 })

def ofLocal (d : Date) (c : Clock) (east : Int) : Except Fault Timestamp :=
  if ¬ d.Valid ∨ ¬ c.Valid ∨ 1440 ≤ east.natAbs then .error .outOfRange
  else
    let (day, clock) := toUniversal d c east
    match ofParts? day clock with
    | some t => .ok t
    | none => .error .impossible

def ofChars (cs : List Char) : Except Fault Timestamp := do
  let (d, cs) ← readDate cs
  let cs ← match cs with
    | [] => .error .tooShort
    | c :: rest => if c = 'T' ∨ c = 't' ∨ c = ' ' then .ok rest else .error .invalid
  let (c, cs) ← readClock cs
  let (east, cs) ← readOffset cs
  if (Text.trimStart cs).isEmpty then ofLocal d c east else .error .tooLong

def ofText (s : String) : Except Fault Timestamp := ofChars s.toList

end PackageInstall.Timestamp
