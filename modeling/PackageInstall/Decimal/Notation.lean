import PackageInstall.Decimal.Shortest

namespace PackageInstall.Binary64

def zeros (n : Nat) : String := String.ofList (List.replicate n '0')

def positional (digits : Nat) (power : Int) : String :=
  let text := toString digits
  if 0 ≤ power then text ++ zeros power.toNat
  else
    let places := (-power).toNat
    if places < text.length then
      String.ofList (text.toList.take (text.length - places)) ++ "." ++
        String.ofList (text.toList.drop (text.length - places))
    else "0." ++ zeros (places - text.length) ++ text

def signed (x : Binary64) (text : String) : String := if x.isNegative then "-" ++ text else text

/-- The value as settings show it: no exponent, and no point in a whole number. -/
def plain (x : Binary64) : String :=
  if infinite < x.magnitude then "NaN"
  else if x.magnitude = infinite then signed x "inf"
  else if x.magnitude = 0 then signed x "0"
  else
    let (digits, power) := shortest x.magnitude
    signed x (positional digits power)

def pointed (x : Binary64) : String :=
  if x.isFinite ∧ x.plain.contains '.' = false then x.plain ++ ".0" else x.plain

def powerMark (n : Int) : String := if 0 ≤ n then "e+" ++ toString n else "e" ++ toString n

/-- The value as messages on documents show it: positional from `0.00001` to below `10 ^ 16`. -/
def compact (x : Binary64) : String :=
  if !x.isFinite then plain x
  else if x.magnitude = 0 then signed x "0.0"
  else
    let (digits, power) := shortest x.magnitude
    let text := toString digits
    let place := power + text.length
    if -5 < place ∧ place ≤ 16 then pointed x
    else
      let fraction := if text.length = 1 then "" else "." ++ String.ofList (text.toList.drop 1)
      signed x (String.ofList (text.toList.take 1) ++ fraction ++ powerMark (place - 1))

end PackageInstall.Binary64
