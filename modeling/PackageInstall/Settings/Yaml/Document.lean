import PackageInstall.Settings.Yaml.Token
import PackageInstall.Settings.Yaml.Value

namespace PackageInstall.Settings.Yaml

open Value (Tag)

structure Builder where
  tokens : List Token
  handles : List (String × String)
  anchors : List (String × Nat)
  next : Nat
  known : List (Nat × Value)

abbrev Build := StateT Builder Option

namespace Build

def peek : Build Token := do
  match (← get).tokens with
  | t :: _ => return t
  | [] => failure

def skip : Build Unit := modify fun b => { b with tokens := b.tokens.drop 1 }

def accept (t : Token) : Build Bool := do
  if (← peek) = t then
    skip
    return true
  else return false

/-- A tag in full. Only a handle between two marks must have been declared. -/
def resolve (handle suffix : String) : Build Tag := do
  match (← get).handles.lookup handle with
  | some text => return ⟨text, suffix⟩
  | none =>
    if handle = "!!" then return ⟨"tag:yaml.org,2002:", suffix⟩
    else if Lex.isHandle handle.toList then failure
    else return ⟨handle, suffix⟩

def declare (name : String) : Build Nat := do
  let b ← get
  set { b with anchors := (name, b.next) :: b.anchors, next := b.next + 1 }
  return b.next

def properties : Build (Option Nat × Option Tag) := do
  match ← peek with
  | .anchor name =>
    skip
    let anchor ← declare name
    match ← peek with
    | .tag handle suffix =>
      skip
      return (some anchor, some (← resolve handle suffix))
    | _ => return (some anchor, none)
  | .tag handle suffix =>
    skip
    let tag ← resolve handle suffix
    match ← peek with
    | .anchor name =>
      skip
      return (some (← declare name), some tag)
    | _ => return (none, some tag)
  | _ => return (none, none)

def note (anchor : Option Nat) (value : Value) : Build Value := do
  if let some n := anchor then modify fun b => { b with known := (n, value) :: b.known }
  return value

def named (name : String) : Build Value := do
  let b ← get
  match b.anchors.lookup name with
  | some n => return (b.known.lookup n).getD .bad
  | none => failure

mutual

def node (block indentless : Bool) : Nat → Build Value
  | 0 => failure
  | left + 1 => do
    match ← peek with
    | .alias name =>
      skip
      named name
    | _ =>
      let (anchor, tag) ← properties
      match ← peek with
      | .scalar plain text =>
        skip
        note anchor (.ofScalar tag plain text)
      | .flowSequence =>
        skip
        note anchor (.list (← flowItems true left))
      | .flowMapping =>
        skip
        note anchor (← table (← flowNodes true left))
      | .blockEntry =>
        if indentless then note anchor (.list (← indentlessItems left)) else bare anchor tag
      | .blockSequence =>
        if block then
          skip
          note anchor (.list (← blockItems left))
        else bare anchor tag
      | .blockMapping =>
        if block then
          skip
          note anchor (← table (← blockNodes left))
        else bare anchor tag
      | _ => bare anchor tag

def bare (anchor : Option Nat) (tag : Option Tag) : Build Value :=
  if anchor.isNone && tag.isNone then failure else note anchor (.ofScalar tag true "")

def table (nodes : List Value) : Build Value := StateT.lift (Value.ofNodes nodes)

def nodeUnless (block indentless : Bool) (stops : List Token) : Nat → Build Value
  | 0 => failure
  | left + 1 => do
    if stops.contains (← peek) then return .null else node block indentless left

def blockItems : Nat → Build (List Value)
  | 0 => failure
  | left + 1 => do
    if ← accept .blockEntry then
      let item ← nodeUnless true false [.blockEntry, .blockEnd] left
      return item :: (← blockItems left)
    else if ← accept .blockEnd then return []
    else failure

def indentlessItems : Nat → Build (List Value)
  | 0 => failure
  | left + 1 => do
    if ← accept .blockEntry then
      let item ← nodeUnless true false [.blockEntry, .key, .value, .blockEnd] left
      return item :: (← indentlessItems left)
    else return []

def blockNodes : Nat → Build (List Value)
  | 0 => failure
  | left + 1 => do
    if ← accept .blockEnd then return []
    else
      let key ←
        if ← accept .key then nodeUnless true true [.key, .value, .blockEnd] left
        else if (← peek) = .value then pure .null
        else failure
      let value ←
        if ← accept .value then nodeUnless true true [.key, .value, .blockEnd] left
        else pure .null
      return key :: value :: (← blockNodes left)

def flowItems (first : Bool) : Nat → Build (List Value)
  | 0 => failure
  | left + 1 => do
    if ← accept .flowSequenceEnd then return []
    if !first then
      if !(← accept .flowEntry) then failure
    if ← accept .flowSequenceEnd then return []
    let item ← if ← accept .key then flowPair left else node false false left
    return item :: (← flowItems false left)

def flowPair : Nat → Build Value
  | 0 => failure
  | left + 1 => do
    let stops : List Token := [.value, .flowEntry, .flowSequenceEnd]
    let key ← if stops.contains (← peek) then do
        skip
        pure .null
      else node false false left
    let value ← flowValue .flowSequenceEnd left
    table [key, value]

def flowValue (stop : Token) : Nat → Build Value
  | 0 => failure
  | left + 1 => do
    if ← accept .value then nodeUnless false false [.flowEntry, stop] left else return .null

def flowNodes (first : Bool) : Nat → Build (List Value)
  | 0 => failure
  | left + 1 => do
    if ← accept .flowMappingEnd then return []
    if !first then
      if !(← accept .flowEntry) then failure
    if ← accept .flowMappingEnd then return []
    let nodes ←
      if ← accept .key then do
        let key ← nodeUnless false false [.value, .flowEntry, .flowMappingEnd] left
        pure [key, ← flowValue .flowMappingEnd left]
      else if (← peek) = .value then do
        pure [.null, ← flowValue .flowMappingEnd left]
      else do
        pure [← node false false left, .null]
    return nodes ++ (← flowNodes false left)

end

/-- The directives before a document, of which one may tell a version. Each forgets the handles
before it. -/
def directives (versioned : Bool) : Nat → Build Unit
  | 0 => failure
  | left + 1 => do
    match ← peek with
    | .version =>
      if versioned then failure
      skip
      modify fun b => { b with handles := [] }
      directives true left
    | .handle name expansion =>
      skip
      modify fun b => { b with handles := [(name, expansion)] }
      directives versioned left
    | _ => return ()

def isDirective : Token → Bool
  | .version | .handle .. => true
  | _ => false

def isBoundary (t : Token) : Bool :=
  isDirective t || [.documentStart, .documentEnd, .streamEnd].contains t

def dropEnds : Nat → Build Unit
  | 0 => return ()
  | left + 1 => do if ← accept .documentEnd then dropEnds left

def marked (size : Nat) : Build Value := do
  directives false size
  if ← accept .documentStart then
    if isBoundary (← peek) then return .null else node true false size
  else failure

/-- The documents of a stream. The first one, and one after a mark of an end, need no mark of their
start. -/
def documents (unmarked : Bool) (size : Nat) : Nat → Build (List Value)
  | 0 => failure
  | left + 1 => do
    dropEnds size
    let t ← peek
    if t = .streamEnd then return []
    modify fun b => { b with anchors := [] }
    let root ← if unmarked && !isBoundary t then node true false size else marked size
    modify fun b => { b with handles := [] }
    let ended ← accept .documentEnd
    if !ended && isDirective (← peek) then failure
    return root :: (← documents ended size left)

end Build

def read (cs : List Char) : Option Json := do
  let tokens ← Token.ofText cs
  let size := 4 * tokens.length + 4
  let (found, _) ← (Build.documents true size size).run ⟨tokens, [], [], 0, []⟩
  match found with
  | [] => some (.object [])
  | [value] => value.toJson
  | _ => none

end PackageInstall.Settings.Yaml
