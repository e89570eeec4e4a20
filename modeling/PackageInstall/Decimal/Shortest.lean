import PackageInstall.Decimal.Binary64

namespace PackageInstall.Binary64

def reaches (num den : Nat) (power : Int) : Bool :=
  if 0 ≤ power then den * tenTo power.toNat ≤ num else den ≤ num * tenTo (-power).toNat

def leadingPower (num den : Nat) : Int :=
  let binary : Int := num.log2 - den.log2
  let guess := Int.fdiv (binary * 30103) 100000
  if reaches num den (guess + 1) then guess + 1
  else if reaches num den guess then guess
  else if reaches num den (guess - 1) then guess - 1
  else guess - 2

def readsBack (m digits : Nat) (power : Int) : Bool := roundDecimal digits power == m

def distance (num den digits : Nat) (power : Int) : Nat :=
  let (value, point) :=
    if 0 ≤ power then (num, digits * den * tenTo power.toNat)
    else (num * tenTo (-power).toNat, digits * den)
  (value - point) + (point - value)

/-- Tries one digit more as long as neither neighbour of the number on the grid reads back. -/
def shortestFrom (m : Nat) (power : Int) : Nat → Nat × Int
  | 0 => (0, 0)
  | left + 1 =>
    let num := significand m * twoTo (exponent m)
    let den := twoTo 1074
    let below :=
      if 0 ≤ power then num / (den * tenTo power.toNat) else num * tenTo (-power).toNat / den
    let above := below + 1
    match readsBack m below power, readsBack m above power with
    | true, true =>
      if distance num den above power < distance num den below power then (above, power)
      else (below, power)
    | true, false => (below, power)
    | false, true => (above, power)
    | false, false => shortestFrom m (power - 1) left

/-- Digits and power of ten for a finite magnitude other than zero; seventeen digits always do.
Where the neighbour above a single digit is found, it may be ten. -/
def shortest (m : Nat) : Nat × Int :=
  match shortestFrom m (leadingPower (significand m * twoTo (exponent m)) (twoTo 1074)) 17 with
  | (10, power) => (1, power + 1)
  | found => found

end PackageInstall.Binary64
