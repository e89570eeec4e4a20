import PackageInstall.Decimal.Numeral
import PackageInstall.Json
import PackageInstall.Timestamp

namespace PackageInstall.Toml.Scalar

open Calendar

def ungroupedAfter (isDigit : Char → Bool) : Bool → List Char → Option (List Char)
  | afterDigit, [] => if afterDigit then some [] else none
  | afterDigit, c :: rest =>
    if isDigit c then (ungroupedAfter isDigit true rest).map (c :: ·)
    else if c = '_' ∧ afterDigit then ungroupedAfter isDigit false rest
    else none

def ungrouped (isDigit : Char → Bool) (cs : List Char) : Option (List Char) :=
  ungroupedAfter isDigit false cs

def decimal (cs : List Char) : Option (List Char) :=
  (ungrouped Char.isDigit cs).filter fun digits => digits.head? ≠ some '0' ∨ digits.length = 1

def based (base : Nat) (cs : List Char) : Option Int :=
  (ungrouped (fun c => (Numeral.digit base c).isSome) cs).bind (Numeral.int base)

def int? (cs : List Char) : Option Int :=
  let n := match cs with
    | '0' :: 'x' :: rest => based 16 rest
    | '0' :: 'o' :: rest => based 8 rest
    | '0' :: 'b' :: rest => based 2 rest
    | '-' :: rest => ((decimal rest).bind (Numeral.int 10)).map (- ·)
    | '+' :: rest => (decimal rest).bind (Numeral.int 10)
    | _ => (decimal cs).bind (Numeral.int 10)
  n.filter isInt64

def isMark (c : Char) : Bool := c = 'e' ∨ c = 'E'

def exponent (cs : List Char) : Option (List Char) :=
  match cs with
  | [] => some []
  | _ :: '-' :: rest => (ungrouped Char.isDigit rest).map ('e' :: '-' :: ·)
  | _ :: '+' :: rest => (ungrouped Char.isDigit rest).map ('e' :: ·)
  | _ :: rest => (ungrouped Char.isDigit rest).map ('e' :: ·)

def fraction (cs : List Char) : Option (List Char) :=
  match cs with
  | [] => some []
  | _ :: rest => (ungrouped Char.isDigit rest).map ('.' :: ·)

def pointed (cs : List Char) : Option (List Char) := do
  let body := cs.takeWhile fun c => !isMark c
  let power := cs.dropWhile fun c => !isMark c
  let point := body.dropWhile (· ≠ '.')
  if power.isEmpty ∧ point.isEmpty then failure
  return (← decimal (body.takeWhile (· ≠ '.'))) ++ (← fraction point) ++ (← exponent power)

def unsigned (cs : List Char) : List Char :=
  match cs with
  | '-' :: rest | '+' :: rest => rest
  | _ => cs

/-- A number of the binary format. One that is too large is refused, unless it is negative. -/
def float? (cs : List Char) : Option Binary64 :=
  let negative := cs.head? = some '-'
  let body := unsigned cs
  if body = "inf".toList then some (.ofMagnitude negative Binary64.infinite)
  else if body = "nan".toList then some (.ofMagnitude negative (Binary64.infinite + twoTo 51))
  else
    ((pointed body).bind Numeral.magnitude).bind fun m =>
      if m = Binary64.infinite ∧ negative = false then none
      else some (.ofMagnitude negative m)

def pair (low high : Nat) (cs : List Char) : Option (Nat × List Char) :=
  match cs with
  | a :: b :: rest =>
    if a.isDigit ∧ b.isDigit then
      let n := Numeral.valueOf [a, b]
      if low ≤ n ∧ n ≤ high then some (n, rest) else none
    else none
  | _ => none

def mark (c : Char) (cs : List Char) : Option (List Char) :=
  match cs with
  | d :: rest => if d = c then some rest else none
  | [] => none

def date (cs : List Char) : Option (Date × List Char) := do
  let year := cs.take 4
  if year.length < 4 ∨ !year.all Char.isDigit then failure
  let (month, cs) ← pair 1 12 (← mark '-' (cs.drop 4))
  let (day, cs) ← pair 1 31 (← mark '-' cs)
  let year : Int := Numeral.valueOf year
  if daysIn year month < day then failure
  return (⟨year, month, day⟩, cs)

/-- Digits of a fraction past the ninth are dropped. -/
def nanosecond (cs : List Char) : Option (Nat × List Char) :=
  match cs with
  | '.' :: rest =>
    let digits := rest.takeWhile Char.isDigit
    if digits.isEmpty then none
    else
      let kept := digits.take 9
      some (Numeral.valueOf kept * tenTo (9 - kept.length), rest.dropWhile Char.isDigit)
  | _ => some (0, cs)

def clock (cs : List Char) : Option (Clock × List Char) := do
  let (hour, cs) ← pair 0 23 cs
  let (minute, cs) ← pair 0 59 (← mark ':' cs)
  let (second, cs) ← pair 0 60 (← mark ':' cs)
  let (nanosecond, cs) ← nanosecond cs
  return (⟨hour, minute, second, nanosecond⟩, cs)

def offset (cs : List Char) : Option (List Char) :=
  match cs with
  | [] => some []
  | ['Z'] | ['z'] => some ['Z']
  | sign :: rest => do
    if sign ≠ '+' ∧ sign ≠ '-' then failure
    let (hour, cs) ← pair 0 23 rest
    let (minute, cs) ← pair 0 59 (← mark ':' cs)
    if !cs.isEmpty then failure
    let sign := if hour = 0 ∧ minute = 0 then '+' else sign
    return sign :: Timestamp.padded 2 hour ++ ':' :: Timestamp.padded 2 minute

def fractionText (nanosecond : Nat) : List Char :=
  if nanosecond = 0 then []
  else '.' :: ((Timestamp.padded 9 nanosecond).reverse.dropWhile (· = '0')).reverse

def clockText (c : Clock) : List Char :=
  Timestamp.padded 2 c.hour ++ ':' :: Timestamp.padded 2 c.minute ++
    ':' :: Timestamp.padded 2 c.second ++ fractionText c.nanosecond

def isTimeMark (c : Char) : Bool := c = 'T' ∨ c = 't' ∨ c = ' '

def time? (cs : List Char) : Option String :=
  match date cs with
  | some (day, []) => some (String.ofList (Timestamp.dateText day))
  | some (day, c :: rest) => do
    if !isTimeMark c then failure
    let (time, rest) ← clock rest
    return String.ofList
      (Timestamp.dateText day ++ 'T' :: clockText time ++ (← offset rest))
  | none =>
    match clock cs with
    | some (time, []) => some (String.ofList (clockText time))
    | _ => none

def bool? (cs : List Char) : Option Bool :=
  if cs = "true".toList then some true
  else if cs = "false".toList then some false
  else none

def ofWord (cs : List Char) : Option Json :=
  match bool? cs, time? cs, float? cs, int? cs with
  | some b, _, _, _ => some (.bool b)
  | none, some s, _, _ => some (.text s)
  | none, none, some x, _ => some (.float x)
  | none, none, none, some n => some (.int n)
  | none, none, none, none => none

end PackageInstall.Toml.Scalar
