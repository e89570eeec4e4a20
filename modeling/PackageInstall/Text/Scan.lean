namespace PackageInstall.Text

abbrev Scan := StateT (List Char) Option

namespace Scan

def rest : Scan (List Char) := get

def peek : Scan (Option Char) := do return (← rest).head?

def next : Scan Char := do
  match ← rest with
  | [] => failure
  | c :: cs => set cs; return c

def one (p : Char → Bool) : Scan Char := do
  let c ← next
  if p c then return c else failure

def char (c : Char) : Scan Unit := do discard (one (· = c))

def span (p : Char → Bool) : Scan (List Char) := do
  let cs ← rest
  set (cs.dropWhile p)
  return cs.takeWhile p

def skip (p : Char → Bool) : Scan Unit := do discard (span p)

def some (p : Char → Bool) : Scan (List Char) := do
  let cs ← span p
  if cs.isEmpty then failure else return cs

def exactly (p : Char → Bool) : Nat → Scan (List Char)
  | 0 => return []
  | n + 1 => do return (← one p) :: (← exactly p n)

def isNext (text : String) : Scan Bool := do return text.toList.isPrefixOf (← rest)

def accept (text : String) : Scan Bool := do
  if ← isNext text then
    set ((← rest).drop text.length)
    return true
  else return false

def acceptAny (texts : List String) : Scan Bool := do
  let all ← rest
  match texts.find? fun text => text.toList.isPrefixOf all with
  | Option.some text => accept text
  | none => return false

def expect (text : String) : Scan Unit := do
  if ← accept text then return () else failure

def atEnd : Scan Bool := do return (← rest).isEmpty

def repeatUpTo (step : Scan (Option α)) : Nat → Scan (List α)
  | 0 => failure
  | left + 1 => do
    match ← step with
    | none => return []
    | Option.some a => return a :: (← repeatUpTo step left)

/-- Steps until one reads nothing. Each other step reads a character at least, so the rest bounds
their number. -/
def many (step : Scan (Option α)) : Scan (List α) := do
  repeatUpTo step ((← rest).length + 1)

/-- Things with commas between them, up to a closing mark. A comma may follow the last. -/
def listed (space : Scan Unit) (close : Char) (item : Scan α) : Scan (List α) := do
  let all ← many do
    space
    if (← peek) = Option.some close then return none
    let a ← item
    space
    if !(← accept ",") then
      if (← peek) ≠ Option.some close then failure
    return Option.some a
  char close
  return all

def all (scan : Scan α) (cs : List Char) : Option α :=
  match scan.run cs with
  | Option.some (a, []) => Option.some a
  | _ => none

end Scan

end PackageInstall.Text
