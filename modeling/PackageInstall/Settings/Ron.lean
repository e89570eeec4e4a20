import PackageInstall.Decimal.Numeral
import PackageInstall.Json
import PackageInstall.Text.Scan

namespace PackageInstall.Settings.Ron

open Text (Scan)

def isSpace (c : Char) : Bool := c = ' ' ∨ c = '\n' ∨ c = '\t' ∨ c = '\r'

def afterComment : Nat → List Char → Option (List Char)
  | level, '/' :: '*' :: rest => afterComment (level + 1) rest
  | level, '*' :: '/' :: rest => if level ≤ 1 then some rest else afterComment (level - 1) rest
  | level, _ :: rest => afterComment level rest
  | _, [] => none

def space : Scan Unit := do
  discard <| Scan.many do
    Scan.skip isSpace
    if ← Scan.accept "//" then
      Scan.skip (· ≠ '\n')
      return some ()
    else if ← Scan.accept "/*" then
      set (← StateT.lift (afterComment 1 (← Scan.rest)))
      return some ()
    else if ← Scan.isNext "/" then failure
    else return none

def isWordStart (c : Char) : Bool := c.isAlpha ∨ c = '_'

def isWordChar (c : Char) : Bool := c.isAlphanum ∨ c = '_'

def isRawChar (c : Char) : Bool := isWordChar c ∨ c = '.' ∨ c = '+' ∨ c = '-'

def keyword (word : String) : Scan Bool := do
  let after := ((← Scan.rest).drop word.length).head?
  if after.any isWordChar then return false else Scan.accept word

def name? : Scan (Option String) := do
  match ← Scan.rest with
  | 'r' :: '#' :: rest =>
    if rest.head?.any isRawChar then
      set rest
      return some (String.ofList (← Scan.span isRawChar))
    else return none
  | 'r' :: '"' :: _ => return none
  | c :: rest =>
    if isWordStart c ∧ (c :: rest).takeWhile isWordChar = (c :: rest).takeWhile isRawChar then
      return some (String.ofList (← Scan.span isWordChar))
    else return none
  | [] => return none

def isWholeChar (c : Char) : Bool := (Numeral.digit 16 c).isSome ∨ c = '_'

def isFloatChar (c : Char) : Bool := c.isDigit ∨ "eE.+-_".contains c

def based (cs : List Char) : Nat × List Char :=
  match cs with
  | '0' :: 'x' :: rest => (16, rest)
  | '0' :: 'b' :: rest => (2, rest)
  | '0' :: 'o' :: rest => (8, rest)
  | _ => (10, cs)

def whole (cs : List Char) : Option (Nat × List Char) :=
  let (base, cs) := based cs
  let run := cs.takeWhile isWholeChar
  if run.head?.all (· = '_') then none
  else (Numeral.nat base (run.filter (· ≠ '_'))).map (·, cs.dropWhile isWholeChar)

def int? (cs : List Char) : Option (Int × List Char) :=
  match cs with
  | '-' :: rest => (whole rest).bind fun (n, after) => signed (-(n : Int)) after
  | '+' :: rest => (whole rest).bind fun (n, after) => signed n after
  | _ => (whole cs).bind fun (n, after) =>
    if n ≤ 0xFFFFFFFFFFFFFFFF then some ((n : Int), after) else none
where
  signed (n : Int) (after : List Char) : Option (Int × List Char) :=
    if isInt64 n then some (n, after) else none

def float : Scan Json := do
  for word in ["inf", "+inf", "-inf", "NaN", "+NaN", "-NaN"] do
    if ← keyword word then return ← number word.toList
  number (← Scan.span isFloatChar)
where
  number (cs : List Char) : Scan Json := .float <$> StateT.lift (Numeral.float cs)

/-- A whole number, unless it goes on as another one or has more than 64 bits. -/
def number : Scan Json := do
  let cs ← Scan.rest
  let body := if cs.head?.any fun c => c = '+' ∨ c = '-' then cs.drop 1 else cs
  if (body.takeWhile isWholeChar).length < (body.takeWhile isFloatChar).length then float
  else
    match int? cs with
    | some (n, after) =>
      set after
      return .int n
    | none => float

def codeInBraces : Scan Char := do
  Scan.char '\x7b'
  let digits ← Scan.some fun c => (Numeral.digit 16 c).isSome
  Scan.char '\x7d'
  let n := (Numeral.nat 16 digits).getD 0
  if digits.length ≤ 6 ∧ n.isValidChar then return Char.ofNat n else failure

def escape : Scan Char := do
  match ← Scan.next with
  | '\'' => return '\''
  | '"' => return '"'
  | '\\' => return '\\'
  | 'n' => return '\n'
  | 'r' => return '\r'
  | 't' => return '\t'
  | '0' => return '\x00'
  | 'x' =>
    let digits ← Scan.exactly (fun c => (Numeral.digit 16 c).isSome) 2
    return Char.ofNat ((Numeral.nat 16 digits).getD 0)
  | 'u' => codeInBraces
  | _ => failure

def quoted : Scan String := do
  let cs ← Scan.many do
    let c ← Scan.next
    if c = '"' then return none
    else if c = '\\' then some <$> escape
    else return some c
  return String.ofList cs

def splitAt (ending : List Char) : List Char → Option (List Char × List Char)
  | [] => none
  | c :: rest =>
    if ending.isPrefixOf (c :: rest) then some ([], (c :: rest).drop ending.length)
    else (splitAt ending rest).map fun (before, after) => (c :: before, after)

def raw : Scan String := do
  let signs ← Scan.span (· = '#')
  Scan.char '"'
  let (text, after) ← StateT.lift (splitAt ('"' :: signs) (← Scan.rest))
  set after
  return String.ofList text

def letter : Scan Char := do
  let c ← Scan.next
  if c = '\'' then failure
  let c ← if c = '\\' then escape else pure c
  Scan.char '\''
  return c

def valueAfter (item : Scan Json) : Scan Json := do
  space
  Scan.char ':'
  space
  item

def namedField (item : Scan Json) : Scan (String × Json) := do
  match ← name? with
  | some name => return (name, ← valueAfter item)
  | none => failure

/-- A field whose key is a value, which must be a text and not an option. -/
def keyedField (item : Scan Json) : Scan (String × Json) := do
  if ← keyword "Some" then failure
  match ← item with
  | .text key => return (key, ← valueAfter item)
  | _ => failure

def startsField : Scan Bool := do
  let all ← Scan.rest
  let name ← name?
  space
  let colon ← Scan.peek
  set all
  return name.isSome && colon = some ':'

def inParentheses (item : Scan Json) : Scan Json := do
  space
  if ← startsField then .ofFields <$> Scan.listed space ')' (namedField item)
  else .array <$> Scan.listed space ')' item

def simple? : Scan (Option Json) := do
  if ← keyword "true" then return some (.bool true)
  else if ← keyword "false" then return some (.bool false)
  else if ← keyword "None" then return some .null
  else if ← Scan.accept "()" then return some .null
  else if (← Scan.isNext "inf") || (← Scan.isNext "-inf") || (← Scan.isNext "NaN") then
    some <$> float <|> return none
  else if ← Scan.accept "\"" then return some (.text (← quoted))
  else if (← Scan.isNext "r\"") || (← Scan.isNext "r#\"") || (← Scan.isNext "r##") then
    Scan.char 'r'
    return some (.text (← raw))
  else if ← Scan.accept "'" then return some (.text (String.singleton (← letter)))
  else if (← Scan.peek).any fun c => c.isDigit ∨ c = '+' ∨ c = '-' ∨ c = '.' then some <$> number
  else return none

def collection (item : Scan Json) : Scan Json := do
  if ← Scan.accept "[" then .array <$> Scan.listed space ']' item
  else if ← Scan.accept "\x7b" then .ofFields <$> Scan.listed space '\x7d' (keyedField item)
  else if ← Scan.accept "(" then inParentheses item
  else failure

def option (value : Scan Json) : Scan Json := do
  space
  Scan.char '('
  space
  let v ← value
  space
  discard (Scan.accept ",")
  space
  Scan.char ')'
  return v

/-- A name says nothing about the collection that follows it, if one does. -/
def named? : Scan (Option Json) := do
  match ← name? with
  | none => return none
  | some _ =>
    space
    if ← Scan.isNext "(" then return none else return some .null

/-- A value inside which so many more values may nest. A collection takes two levels, one for
itself and one for its items, and an option one. -/
def value : Nat → Scan Json
  | 0 => do
    match ← simple? with
    | some v => return v
    | none => StateT.lift (← named?)
  | 1 => do
    if let some v ← simple? then return v
    if ← keyword "Some" then option (value 0)
    else if let some v ← named? then return v
    else collection failure
  | left + 2 => do
    if let some v ← simple? then return v
    if ← keyword "Some" then option (value (left + 1))
    else if let some v ← named? then return v
    else collection (value left)

def depthLimit : Nat := 128

def extensions : List String := ["unwrap_newtypes", "implicit_some", "unwrap_variant_newtypes"]

def attribute? : Scan (Option Unit) := do
  if (← Scan.peek) ≠ some '#' then return none
  for mark in ["#", "!", "[", "enable", "("] do
    Scan.expect mark
    space
  let first ← StateT.lift (← name?)
  let more ← Scan.many do
    space
    if ← Scan.accept "," then
      space
      name?
    else return none
  if (first :: more).all extensions.contains then
    space
    Scan.char ')'
    space
    Scan.char ']'
    space
    return some ()
  else failure

def read (cs : List Char) : Option Json :=
  Scan.all (do
    space
    discard (Scan.many attribute?)
    let v ← value depthLimit
    space
    return v) cs

end PackageInstall.Settings.Ron
