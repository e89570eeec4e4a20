import PackageInstall.Decimal.Numeral
import PackageInstall.Text.Blank
import PackageInstall.Text.Letter
import PackageInstall.Text.Scan

namespace PackageInstall.Text.Pattern

structure Mode where
  /-- Whether a sign stands for characters and not for bytes. -/
  unicode : Bool
  caseless : Bool
  spaced : Bool
  deriving DecidableEq

def Mode.start : Mode := ⟨true, false, false⟩

structure Found where
  depth : Nat
  names : List String

inductive Piece where
  | letter (c : Char)
  | set
  | place

def space (m : Mode) : Scan Unit := do
  if m.spaced then
    discard <| Scan.many do
      match ← Scan.peek with
      | some c =>
        if c = '#' then
          Scan.skip (· ≠ '\n')
          return some ()
        else if isBlank c then some <$> discard Scan.next
        else return none
      | none => return none

def isSign (c : Char) : Bool := c.toNat < 0x80 ∧ !c.isAlphanum ∧ c ≠ '<' ∧ c ≠ '>'

def codeDigits (m : Mode) : Nat → Scan (List Char)
  | 0 => return []
  | n + 1 => do
    space m
    return (← Scan.one fun c => (Numeral.digit 16 c).isSome) :: (← codeDigits m n)

/-- The character of a code of so many digits. A byte that is no character cannot be matched. -/
def code (m : Mode) (digits : Nat) : Scan Piece := do
  let n := ((Numeral.nat 16 (← codeDigits m digits)).getD 0)
  if n.isValidChar ∧ (m.unicode ∨ digits ≠ 2 ∨ n < 0x80) then return .letter (Char.ofNat n)
  else failure

def property (m : Mode) : Scan Piece := do
  space m
  let c ← Scan.next
  if m.unicode ∧ "clmnpsz".contains c.toLower then return .set else failure

/-- What stands after a backslash. The ends of words are not known among all characters. -/
def escape (m : Mode) : Scan Piece := do
  let c ← Scan.next
  if c = 'x' then code m 2
  else if c = 'u' then code m 4
  else if c = 'U' then code m 8
  else if c = 'p' ∨ c = 'P' then property m
  else if "dsw".contains c then return .set
  else if "DSW".contains c then (if m.unicode then return .set else failure)
  else if "Az".contains c then return .place
  else if "bB<>".contains c then (if m.unicode then failure else return .place)
  else if "aftnrv".contains c ∨ isSign c then return .letter c
  else failure

def setItem (m : Mode) : Scan Piece := do
  if ← Scan.accept "\\" then escape m else return .letter (← Scan.next)

def fitsSet (m : Mode) (c : Char) : Bool := m.unicode || c.toNat < 0x80

def setRange (m : Mode) : Scan Unit := do
  let first ← setItem m
  space m
  let after := (← Scan.rest).drop 1
  let next := ((do space m; Scan.peek : Scan (Option Char)).run after).bind (·.1)
  if (← Scan.isNext "-") ∧ next ≠ some ']' ∧ next ≠ some '-' then
    Scan.char '-'
    space m
    match first, ← setItem m with
    | .letter a, .letter b => if a ≤ b ∧ fitsSet m a ∧ fitsSet m b then return () else failure
    | _, _ => failure
  else
    match first with
    | .letter a => if fitsSet m a then return () else failure
    | .set => return ()
    | .place => failure

def kinds : List String :=
  ["alnum", "alpha", "ascii", "blank", "cntrl", "digit", "graph", "lower", "print", "punct",
    "space", "upper", "word", "xdigit"]

def namedKind : Scan (Option Bool) := do
  let all ← Scan.rest
  if ← Scan.accept "[:" then
    let negated ← Scan.accept "^"
    let name ← Scan.span (· ≠ ':')
    if String.ofList name ∈ kinds then
      if ← Scan.accept ":]" then return some negated
  set all
  return none

def together (depths : List Nat) : Nat :=
  let deepest := depths.foldl max 0
  if depths.length ≤ 1 then deepest else deepest + 1

structure SetDraft where
  before : Option Nat
  items : List Nat

def SetDraft.depth (d : SetDraft) : Nat :=
  match d.before with
  | none => together d.items
  | some depth => max depth (together d.items) + 1

/-- The beginning of a set after its bracket: dashes, or else a closing bracket, are letters. -/
def setStart (m : Mode) : Scan SetDraft := do
  space m
  if ← Scan.accept "^" then
    if !m.unicode then failure
    space m
  let dashes ← Scan.many do
    if ← Scan.accept "-" then
      space m
      return some 0
    else return none
  if dashes.isEmpty then
    if ← Scan.accept "]" then
      space m
      return ⟨none, [0]⟩
  return ⟨none, dashes⟩

def setFrom (m : Mode) : Nat → SetDraft → Scan Nat
  | 0, _ => failure
  | fuel + 1, d => do
    space m
    match ← namedKind with
    | some negated =>
      if negated ∧ !m.unicode then failure
      setFrom m fuel { d with items := 0 :: d.items }
    | none =>
      if ← Scan.accept "[" then
        let inner ← setFrom m fuel (← setStart m)
        setFrom m fuel { d with items := inner :: d.items }
      else if ← Scan.accept "]" then return d.depth + 1
      else if ← Scan.acceptAny ["&&", "--", "~~"] then
        setFrom m fuel ⟨some d.depth, []⟩
      else
        setRange m
        setFrom m fuel { d with items := 0 :: d.items }

def isNameStart (c : Char) : Bool := c = '_' || (isLetter c && !c.isDigit)

def isNameChar (c : Char) : Bool := "_.[]".contains c || isLetter c

def groupName : Scan String := do
  let first ← Scan.one isNameStart
  let more ← Scan.span isNameChar
  Scan.char '>'
  return String.ofList (first :: more)

/-- What flags make of a mode. Those after a dash are taken back. -/
def Mode.flagged (m : Mode) : Bool → List Char → Mode
  | _, [] => m
  | on, c :: rest =>
    if c = '-' then flagged m false rest
    else if c = 'u' then flagged { m with unicode := on } on rest
    else if c = 'i' then flagged { m with caseless := on } on rest
    else if c = 'x' then flagged { m with spaced := on } on rest
    else flagged m on rest

def flags (m : Mode) : Scan (List Char × Mode) := do
  let cs ← Scan.span fun c => c ≠ ':' ∧ c ≠ ')'
  if cs.Nodup ∧ cs.all (fun c => "imsUuRx-".contains c) ∧ cs.getLast? ≠ some '-' then
    return (cs, m.flagged true cs)
  else failure

inductive Head where
  | group (mode : Mode) (names : List String)
  | flags (mode : Mode)

def head (m : Mode) : Scan Head := do
  space m
  if (← Scan.isNext "?=") || (← Scan.isNext "?!") || (← Scan.isNext "?<=") ||
      (← Scan.isNext "?<!") then failure
  else if ← Scan.acceptAny ["?P<", "?<"] then return .group m [← groupName]
  else if ← Scan.accept "?" then
    let (cs, inner) ← flags m
    if ← Scan.accept ":" then return .group inner []
    else
      Scan.char ')'
      if cs.isEmpty then failure else return .flags inner
  else return .group m []

structure Draft where
  mode : Mode
  /-- The depths of the branches before, and of the parts of this one, newest first. -/
  branches : List Nat
  parts : List Nat
  repeatable : Bool
  names : List String

namespace Draft

def start (m : Mode) : Draft := ⟨m, [], [], false, []⟩

def push (d : Draft) (depth : Nat) (names : List String) : Draft :=
  { d with parts := depth :: d.parts, repeatable := true, names := names ++ d.names }

def setMode (d : Draft) (m : Mode) : Draft :=
  { d with mode := m, parts := 0 :: d.parts, repeatable := false }

def nextBranch (d : Draft) : Draft :=
  { d with branches := together d.parts :: d.branches, parts := [], repeatable := false }

def repeated (d : Draft) : Draft :=
  match d.parts with
  | [] => d
  | depth :: rest => { d with parts := (depth + 1) :: rest }

def finish (d : Draft) : Found := ⟨together (together d.parts :: d.branches), d.names⟩

end Draft

def fits (m : Mode) (c : Char) : Bool := m.unicode || !m.caseless || c.toNat < 0x80

def readFrom : Nat → Draft → Scan Found
  | 0, _ => failure
  | fuel + 1, d => do
    space d.mode
    match ← Scan.peek with
    | none | some ')' => return d.finish
    | some c =>
      discard Scan.next
      if c = '|' then readFrom fuel d.nextBranch
      else if c = '(' then
        match ← head d.mode with
        | .flags mode => readFrom fuel (d.setMode mode)
        | .group mode names =>
          let inner ← readFrom fuel (.start mode)
          Scan.char ')'
          readFrom fuel (d.push (inner.depth + 1) (names ++ inner.names))
      else if c = '[' then
        let depth ← setFrom d.mode fuel (← setStart d.mode)
        readFrom fuel (d.push depth [])
      else if "?*+".contains c then
        if !d.repeatable then failure
        discard (Scan.accept "?")
        readFrom fuel d.repeated
      else if c = '\x7b' then failure
      else if c = '\\' then
        match ← escape d.mode with
        | .letter c => if fits d.mode c then readFrom fuel (d.push 0 []) else failure
        | _ => readFrom fuel (d.push 0 [])
      else if (c = '.' ∧ !d.mode.unicode) ∨ !fits d.mode c then failure
      else readFrom fuel (d.push 0 [])

def depthLimit : Nat := 250

/-- Whether a text is a pattern. No two groups have one name. -/
def isPattern (cs : List Char) : Bool :=
  match Scan.all (readFrom (2 * cs.length + 2) (.start .start)) cs with
  | some found => found.depth ≤ depthLimit ∧ found.names.Nodup
  | none => false

end PackageInstall.Text.Pattern
