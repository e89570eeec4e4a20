import PackageInstall.Yaml.Token
import PackageInstall.KeyMap

namespace PackageInstall.Yaml

inductive Node where
  | alias (anchor : Nat)
  | scalar (tag : Option Tag) (plain : Bool) (text : String)
  | sequence (tag : Option Tag) (items : List Node)
  | mapping (tag : Option Tag) (entries : List (Node × Node))
  deriving Inhabited

namespace Node

def empty : Node := scalar none true ""

end Node

structure Anchored where
  anchor : Nat
  place : Nat
  node : Node

structure Document where
  root : Node
  anchored : List Anchored
  size : Nat

/-- The node of an anchor: of those with its number the one that begins last. -/
def Document.find (d : Document) (anchor : Nat) : Option Node :=
  let named := d.anchored.filter (·.anchor = anchor)
  (named.foldl (fun (best : Option Anchored) a =>
    match best with
    | none => some a
    | some b => if b.place < a.place then some a else some b) none).map (·.node)

structure Builder where
  tokens : List Token
  handles : List (String × Tag)
  names : KeyMap Nat
  anchored : List Anchored
  size : Nat

abbrev Build := StateT Builder Option

namespace Build

def fail : Build α := fun _ => none

def peek : Build Token := fun b => b.tokens.head?.map (·, b)

def skip : Build Unit := modify fun b => { b with tokens := b.tokens.drop 1 }

def count : Build Nat := modifyGet fun b => (b.size, { b with size := b.size + 1 })

def standardHandles : List (String × Tag) := [("!", [Tag.ownMark]), ("!!", Tag.core "")]

def expand (handle : String) (suffix : Tag) : Build Tag := do
  if handle = "" then return suffix
  match ((← get).handles ++ standardHandles).lookup handle with
  | some expansion => return expansion ++ suffix
  | none => fail

def properties : Build (Option String × Option Tag) := do
  match ← peek with
  | .anchor name =>
    skip
    match ← peek with
    | .tag handle suffix =>
      skip
      return (some name, some (← expand handle suffix))
    | _ => return (some name, none)
  | .tag handle suffix =>
    skip
    match ← peek with
    | .anchor name =>
      skip
      return (some name, some (← expand handle suffix))
    | _ => return (none, some (← expand handle suffix))
  | _ => return (none, none)

def declare (name : Option String) : Build (Option Nat) :=
  match name with
  | none => return none
  | some name => do
    let anchor := (← get).names.entries.length
    modify fun b => { b with names := b.names.insert name anchor }
    return some anchor

def note (anchor : Option Nat) (place : Nat) (node : Node) : Build Node := do
  match anchor with
  | none => return node
  | some anchor =>
    modify fun b => { b with anchored := ⟨anchor, place, node⟩ :: b.anchored }
    return node

def emptyNode : Build Node := do
  discard count
  return .empty

mutual

/-- A node. Outside flow collections it may be a block; as the value of a key it may be a sequence
without an indentation of its own. -/
def node (block indentless : Bool) : Nat → Build Node
  | 0 => fail
  | left + 1 => do
    match ← peek with
    | .alias name =>
      skip
      discard count
      match (← get).names.get? name with
      | some anchor => return .alias anchor
      | none => fail
    | _ =>
      let (name, tag) ← properties
      let token ← peek
      let anchor ← declare name
      match token with
      | .scalar plain text =>
        skip
        note anchor (← count) (.scalar tag plain text)
      | .flowSequence =>
        skip
        let place ← count
        note anchor place (.sequence tag (← flowItems true left))
      | .flowMapping =>
        skip
        let place ← count
        note anchor place (.mapping tag (← flowEntries true left))
      | .blockEntry =>
        if indentless then
          let place ← count
          note anchor place (.sequence tag (← indentlessItems left))
        else bare name tag anchor
      | .blockSequence =>
        if block then
          skip
          let place ← count
          note anchor place (.sequence tag (← blockItems left))
        else bare name tag anchor
      | .blockMapping =>
        if block then
          skip
          let place ← count
          note anchor place (.mapping tag (← blockEntries left))
        else bare name tag anchor
      | _ => bare name tag anchor

def bare (name : Option String) (tag : Option Tag) (anchor : Option Nat) : Build Node := do
  if name.isNone && tag.isNone then fail
  else note anchor (← count) (.scalar tag true "")

def nodeUnless (block indentless : Bool) (stops : List Token) : Nat → Build Node
  | 0 => fail
  | left + 1 => do
    if stops.contains (← peek) then emptyNode else node block indentless left

def blockItems : Nat → Build (List Node)
  | 0 => fail
  | left + 1 => do
    match ← peek with
    | .blockEntry =>
      skip
      let item ← nodeUnless true false [.blockEntry, .blockEnd] left
      return item :: (← blockItems left)
    | .blockEnd =>
      skip
      discard count
      return []
    | _ => fail

def indentlessItems : Nat → Build (List Node)
  | 0 => fail
  | left + 1 => do
    match ← peek with
    | .blockEntry =>
      skip
      let item ← nodeUnless true false [.blockEntry, .key, .value, .blockEnd] left
      return item :: (← indentlessItems left)
    | _ =>
      discard count
      return []

def blockEntries : Nat → Build (List (Node × Node))
  | 0 => fail
  | left + 1 => do
    match ← peek with
    | .key =>
      skip
      let key ← nodeUnless true true [.key, .value, .blockEnd] left
      let value ← blockValue left
      return (key, value) :: (← blockEntries left)
    | .blockEnd =>
      skip
      discard count
      return []
    | _ => fail

def blockValue : Nat → Build Node
  | 0 => fail
  | left + 1 => do
    match ← peek with
    | .value =>
      skip
      nodeUnless true true [.key, .value, .blockEnd] left
    | _ => emptyNode

def flowItems (first : Bool) : Nat → Build (List Node)
  | 0 => fail
  | left + 1 => do
    if (← peek) = .flowSequenceEnd then
      skip
      discard count
      return []
    else
      if !first then
        if (← peek) = .flowEntry then skip else fail
      match ← peek with
      | .flowSequenceEnd =>
        skip
        discard count
        return []
      | .key =>
        skip
        discard count
        let pair ← flowPair left
        return .mapping none [pair] :: (← flowItems false left)
      | _ =>
        let item ← node false false left
        return item :: (← flowItems false left)

/-- A single entry among the items of a flow sequence. Where its key is missing, the token that
shows it is passed over. -/
def flowPair : Nat → Build (Node × Node)
  | 0 => fail
  | left + 1 => do
    let stops : List Token := [.value, .flowEntry, .flowSequenceEnd]
    let key ← if stops.contains (← peek) then do
        skip
        emptyNode
      else node false false left
    let value ← flowValue .flowSequenceEnd left
    discard count
    return (key, value)

def flowValue (stop : Token) : Nat → Build Node
  | 0 => fail
  | left + 1 => do
    match ← peek with
    | .value =>
      skip
      nodeUnless false false [.flowEntry, stop] left
    | _ => emptyNode

def flowEntries (first : Bool) : Nat → Build (List (Node × Node))
  | 0 => fail
  | left + 1 => do
    if (← peek) = .flowMappingEnd then
      skip
      discard count
      return []
    else
      if !first then
        if (← peek) = .flowEntry then skip else fail
      match ← peek with
      | .flowMappingEnd =>
        skip
        discard count
        return []
      | .key =>
        skip
        let key ← nodeUnless false false [.value, .flowEntry, .flowMappingEnd] left
        let value ← flowValue .flowMappingEnd left
        return (key, value) :: (← flowEntries false left)
      | _ =>
        let key ← node false false left
        let value ← emptyNode
        return (key, value) :: (← flowEntries false left)

end

/-- The directives before a document. There may be one version, and one handle of each name. -/
def directives : Nat → Bool → List (String × Tag) → Build (List (String × Tag))
  | 0, _, _ => fail
  | left + 1, versioned, handles => do
    match ← peek with
    | .version major minor =>
      if versioned || major ≠ 1 || !(minor = 1 || minor = 2) then fail
      else
        skip
        directives left true handles
    | .handle name expansion =>
      if (handles.lookup name).isSome then fail
      else
        skip
        directives left versioned (handles ++ [(name, expansion)])
    | _ => return handles

def isBoundary : Token → Bool
  | .version .. | .handle .. | .documentStart | .documentEnd | .streamEnd => true
  | _ => false

def marked (size : Nat) : Build Node := do
  let handles ← directives size false []
  modify fun b => { b with handles }
  if (← peek) ≠ .documentStart then fail
  else
    skip
    if isBoundary (← peek) then emptyNode else node true false size

def finish : Build Unit := do
  if (← peek) = .documentEnd then skip

def document (first : Bool) (size : Nat) : Build Node := do
  let unmarked ← if first then do
      let token ← peek
      pure (token = .documentEnd || !isBoundary token)
    else pure false
  let root ← if unmarked then node true false size else marked size
  finish
  return root

end Build

def dropEnds : List Token → List Token
  | .documentEnd :: rest => dropEnds rest
  | tokens => tokens

def documentsFrom (first : Bool) : Nat → List Token → List (Option Document)
  | 0, _ => []
  | left + 1, tokens =>
    let tokens := if first then tokens else dropEnds tokens
    if tokens.head? = some .streamEnd then []
    else
      let size := 4 * tokens.length + 4
      match (Build.document first size).run ⟨tokens, [], .empty, [], 0⟩ with
      | none => [none]
      | some (root, b) => some ⟨root, b.anchored, b.size⟩ :: documentsFrom false left b.tokens

def Document.ofTokens (tokens : List Token) : List (Option Document) :=
  documentsFrom true (tokens.length + 1) tokens

end PackageInstall.Yaml
