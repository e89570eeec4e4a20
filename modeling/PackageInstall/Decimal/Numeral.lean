import PackageInstall.Decimal.Binary64

namespace PackageInstall.Numeral

def digit (base : Nat) (c : Char) : Option Nat :=
  let value :=
    if c.isDigit then c.toNat - 48
    else if 'a' ≤ c ∧ c ≤ 'f' then c.toNat - 87
    else if 'A' ≤ c ∧ c ≤ 'F' then c.toNat - 55
    else base
  if value < base then some value else none

def nat (base : Nat) (cs : List Char) : Option Nat :=
  if cs.isEmpty then none
  else cs.foldlM (fun n c => (digit base c).map (n * base + ·)) 0

def int (base : Nat) (cs : List Char) : Option Int :=
  match cs with
  | '-' :: rest => (nat base rest).map fun n => -(n : Int)
  | '+' :: rest => (nat base rest).map fun n => (n : Int)
  | _ => (nat base cs).map fun n => (n : Int)

def valueOf (digits : List Char) : Nat := digits.foldl (fun n c => n * 10 + (c.toNat - 48)) 0

def exponent (cs : List Char) : Option Int :=
  match cs with
  | [] => some 0
  | c :: rest => if c = 'e' ∨ c = 'E' then int 10 rest else none

/-- The magnitude of a decimal number without a sign. There must be a digit before or after the
point. -/
def magnitude (cs : List Char) : Option Nat :=
  let whole := cs.takeWhile Char.isDigit
  let rest := cs.dropWhile Char.isDigit
  let (fraction, rest) :=
    match rest with
    | '.' :: rest => (rest.takeWhile Char.isDigit, rest.dropWhile Char.isDigit)
    | _ => ([], rest)
  if whole.isEmpty ∧ fraction.isEmpty then none
  else (exponent rest).map fun e =>
    Binary64.roundDecimal (valueOf (whole ++ fraction)) (e - fraction.length)

def lower (cs : List Char) : List Char := cs.map Char.toLower

/-- The magnitude of a number that may also be infinite or no number. -/
def anyMagnitude (cs : List Char) : Option Nat :=
  if lower cs = "inf".toList ∨ lower cs = "infinity".toList then some Binary64.infinite
  else if lower cs = "nan".toList then some (Binary64.infinite + twoTo 51)
  else magnitude cs

def float (cs : List Char) : Option Binary64 :=
  match cs with
  | '-' :: rest => (anyMagnitude rest).map (Binary64.ofMagnitude true)
  | '+' :: rest => (anyMagnitude rest).map (Binary64.ofMagnitude false)
  | _ => (anyMagnitude cs).map (Binary64.ofMagnitude false)

end PackageInstall.Numeral
