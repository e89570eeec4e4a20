import PackageInstall.Json.Letters
import PackageInstall.Json.Numeral

/-!
Concatenated JSON values, read one byte at a time. The reader is a fold of `Reader.feed` over the
bytes, so what it has found in some bytes is what it has found when more of them follow.
-/

namespace PackageInstall.Json

/-- A collection that is open around the value being read. Its parts stand newest first. -/
inductive Frame where
  | items (done : List Json)
  | fields (done : List (String × Json))
  | field (done : List (String × Json)) (key : String)

inductive Spot where
  | value
  | firstItem
  | nextItem
  | itemEnd
  | firstKey
  | nextKey
  | fieldEnd
  | colon
  | word (left : List UInt8) (value : Json)
  | numeral (numeral : Numeral)
  | string (letters : Letters)
  | key (letters : Letters)

/-- Where a fault lies: before the byte that shows it, or some bytes back from after it. -/
inductive Mark where
  | before
  | after (back : Nat)
  deriving DecidableEq

inductive Phase where
  | between
  /-- A value that is no collection or string ends where a delimiter shows it. -/
  | scalar (value : Json)
  | inside (frames : List Frame) (spot : Spot)
  | failed (fault : Fault) (mark : Mark)

structure Step where
  document : Option Json
  next : Phase

namespace Phase

def isBlank (b : UInt8) : Bool := b = 0x20 ∨ b = 0x0A ∨ b = 0x09 ∨ b = 0x0D

def isDelimiter (b : UInt8) : Bool :=
  isBlank b ∨ b = 0x22 ∨ b = 0x5B ∨ b = 0x5D ∨ b = 0x7B ∨ b = 0x7D ∨ b = 0x2C ∨ b = 0x3A

def depthLimit : Nat := 127

def go (next : Phase) : Step := ⟨none, next⟩

def fail (fault : Fault) : Step := ⟨none, failed fault (.after 0)⟩

def deliver (frames : List Frame) (value : Json) (selfDelimited : Bool) : Step :=
  match frames with
  | [] => if selfDelimited then ⟨some value, between⟩ else go (scalar value)
  | .items done :: rest => go (inside (.items (value :: done) :: rest) .itemEnd)
  | .field done key :: rest => go (inside (.fields ((key, value) :: done) :: rest) .fieldEnd)
  | .fields done :: rest => go (inside (.fields done :: rest) .fieldEnd)

def openFrame (frames : List Frame) (frame : Frame) (spot : Spot) : Step :=
  if frames.length < depthLimit then go (inside (frame :: frames) spot) else fail .tooDeep

def word (s : String) : List UInt8 := Utf8.encode s.toList

def stepValue (frames : List Frame) (waiting : Phase) (b : UInt8) : Step :=
  if isBlank b then go waiting
  else if b = 0x6E then go (inside frames (.word (word "ull") .null))
  else if b = 0x74 then go (inside frames (.word (word "rue") (.bool true)))
  else if b = 0x66 then go (inside frames (.word (word "alse") (.bool false)))
  else if b = 0x2D then go (inside frames (.numeral .minus))
  else if b = 0x30 then go (inside frames (.numeral (.zero false)))
  else if Numeral.isDigit b then go (inside frames (.numeral (.whole false (Numeral.digit b))))
  else if b = 0x22 then go (inside frames (.string .empty))
  else if b = 0x5B then openFrame frames (.items []) .firstItem
  else if b = 0x7B then openFrame frames (.fields []) .firstKey
  else fail .noValue

def close : List Frame → Step
  | .items done :: rest => deliver rest (.array done.reverse) true
  | .fields done :: rest => deliver rest (ofFields done.reverse) true
  | .field done _ :: rest => deliver rest (ofFields done.reverse) true
  | [] => go between

def named (frames : List Frame) (key : String) : Step :=
  match frames with
  | .fields done :: rest => go (inside (.field done key :: rest) .colon)
  | _ => go (inside frames .colon)

def stepAfter (phase : Phase) (b : UInt8) : Step :=
  match phase with
  | .inside frames .itemEnd =>
    if isBlank b then go (inside frames .itemEnd)
    else if b = 0x2C then go (inside frames .nextItem)
    else if b = 0x5D then close frames
    else fail .noItemEnd
  | .inside frames .fieldEnd =>
    if isBlank b then go (inside frames .fieldEnd)
    else if b = 0x2C then go (inside frames .nextKey)
    else if b = 0x7D then close frames
    else fail .noFieldEnd
  | .scalar value =>
    if isDelimiter b then ⟨some value, (stepValue [] between b).next⟩ else fail .moreAfterValue
  | other => go other

/-- A numeral ended before the byte: its value is delivered, and the byte is what follows it. -/
def stepEnded (frames : List Frame) (numeral : Numeral) (b : UInt8) : Step :=
  match numeral.value with
  | .ok value => stepAfter (deliver frames value false).next b
  | .error fault => ⟨none, failed fault .before⟩

def stepInside (frames : List Frame) (spot : Spot) (b : UInt8) : Step :=
  match spot with
  | .value => stepValue frames (inside frames .value) b
  | .firstItem =>
    if b = 0x5D then close frames else stepValue frames (inside frames .firstItem) b
  | .nextItem =>
    if b = 0x5D then fail .commaBeforeEnd else stepValue frames (inside frames .nextItem) b
  | .itemEnd | .fieldEnd => stepAfter (inside frames spot) b
  | .firstKey =>
    if isBlank b then go (inside frames .firstKey)
    else if b = 0x22 then go (inside frames (.key .empty))
    else if b = 0x7D then close frames
    else fail .keyIsNoString
  | .nextKey =>
    if isBlank b then go (inside frames .nextKey)
    else if b = 0x22 then go (inside frames (.key .empty))
    else if b = 0x7D then fail .commaBeforeEnd
    else fail .keyIsNoString
  | .colon =>
    if isBlank b then go (inside frames .colon)
    else if b = 0x3A then go (inside frames .value)
    else fail .noColon
  | .word [] value => deliver frames value false
  | .word (expected :: left) value =>
    if b ≠ expected then fail .unknownWord
    else if left.isEmpty then deliver frames value false
    else go (inside frames (.word left value))
  | .numeral numeral =>
    match numeral.step b with
    | .more numeral => go (inside frames (.numeral numeral))
    | .ended => stepEnded frames numeral b
    | .fault fault => fail fault
  | .string letters =>
    match letters.step b with
    | .more letters => go (inside frames (.string letters))
    | .closed content => deliver frames (.text content) true
    | .fault fault back => ⟨none, failed fault (.after back)⟩
  | .key letters =>
    match letters.step b with
    | .more letters => go (inside frames (.key letters))
    | .closed name => named frames name
    | .fault fault back => ⟨none, failed fault (.after back)⟩

def step (phase : Phase) (b : UInt8) : Step :=
  match phase with
  | between => stepValue [] between b
  | scalar value => stepAfter (scalar value) b
  | inside frames spot => stepInside frames spot b
  | failed fault mark => go (failed fault mark)

def endFault : Spot → Fault
  | .value | .nextItem | .nextKey | .word .. | .numeral _ => .endInValue
  | .firstItem | .itemEnd => .endInArray
  | .firstKey | .fieldEnd | .colon => .endInObject
  | .string _ | .key _ => .endInString

end Phase

structure Reader where
  documents : List Json
  phase : Phase
  place : Place

namespace Reader

def start : Reader := ⟨[], .between, .start⟩

def placeOf (phase : Phase) (before after : Place) : Place :=
  match phase with
  | .failed _ .before => before
  | .failed _ (.after back) => after.back back
  | _ => after

def feed (r : Reader) (b : UInt8) : Reader :=
  match r.phase with
  | .failed .. => r
  | phase =>
    let step := phase.step b
    ⟨step.document.toList ++ r.documents, step.next, placeOf step.next r.place (r.place.after b)⟩

def read (bytes : List UInt8) : Reader := bytes.foldl feed start

def ending (r : Reader) : Option Json × Option FaultAt :=
  match r.phase with
  | .between => (none, none)
  | .scalar value => (some value, none)
  | .failed fault _ => (none, some ⟨fault, r.place⟩)
  | .inside frames (.numeral numeral) =>
    match numeral.value with
    | .error fault => (none, some ⟨fault, r.place⟩)
    | .ok value =>
      match (Phase.deliver frames value false).next with
      | .scalar value => (some value, none)
      | .inside _ spot => (none, some ⟨Phase.endFault spot, r.place⟩)
      | _ => (none, none)
  | .inside _ spot => (none, some ⟨Phase.endFault spot, r.place⟩)

def outcome (r : Reader) : List Json × Option FaultAt :=
  let (last, fault) := r.ending
  (r.documents.reverse ++ last.toList, fault)

end Reader

def readAll (bytes : List UInt8) : List Json × Option FaultAt := (Reader.read bytes).outcome

end PackageInstall.Json
