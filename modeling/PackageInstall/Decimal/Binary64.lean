import PackageInstall.Decimal.Power

namespace PackageInstall

structure Binary64 where
  bits : UInt64
  deriving DecidableEq

namespace Binary64

/-- The magnitude of infinity; greater ones are no numbers. -/
def infinite : Nat := 0x7FF * twoTo 52

def ofMagnitude (negative : Bool) (m : Nat) : Binary64 :=
  ⟨UInt64.ofNat (if negative then m + twoTo 63 else m)⟩

def magnitude (x : Binary64) : Nat := x.bits.toNat % twoTo 63

def isNegative (x : Binary64) : Bool := twoTo 63 ≤ x.bits.toNat

def isFinite (x : Binary64) : Bool := x.magnitude < infinite

def significand (m : Nat) : Nat := if m < twoTo 52 then m else m % twoTo 52 + twoTo 52

def exponent (m : Nat) : Nat := m / twoTo 52 - 1

def roundDiv (num den : Nat) : Nat :=
  let floor := num / den
  let twice := 2 * (num % den)
  if twice < den then floor
  else if den < twice then floor + 1
  else floor + floor % 2

/-- The magnitude nearest to `num / den`, infinite past the greatest finite one. -/
def roundRatio (num den : Nat) : Nat :=
  let scaled := num * twoTo 1074
  let guess := scaled.log2 - den.log2 - 52
  let power := if scaled / (den * twoTo guess) < twoTo 52 then guess - 1 else guess
  if num = 0 then 0
  else min infinite (power * twoTo 52 + roundDiv scaled (den * twoTo power))

def roundNat (n : Nat) : Nat := roundRatio n 1

def mul (a b : Nat) : Nat :=
  roundRatio (significand a * significand b * twoTo (exponent a + exponent b)) (twoTo 2148)

def div (a b : Nat) : Nat :=
  roundRatio (significand a * twoTo (exponent a)) (significand b * twoTo (exponent b))

/-- The magnitude nearest to `digits * 10 ^ power`. Far outside the range of the format the answer
is known without computing the power. -/
def roundDecimal (digits : Nat) (power : Int) : Nat :=
  if digits = 0 then 0
  else if 310 < power then infinite
  else if 0 ≤ power then roundNat (digits * tenTo power.toNat)
  else if digits.log2 + 1200 < 3 * (-power).toNat then 0
  else roundRatio digits (tenTo (-power).toNat)

end Binary64

end PackageInstall
