namespace PackageInstall.Utf8

/-- A character of which `owed` bytes are still to come, the next one between `low` and `high`. -/
structure Begun where
  value : Nat
  owed : Nat
  low : Nat
  high : Nat
  deriving DecidableEq

inductive Step where
  | char (c : Char)
  | more (begun : Begun)
  | illFormed
  deriving DecidableEq

/-- The first byte of a character. Bounds on the second byte keep out longer spellings of shorter
characters, surrogates and values past the last character. -/
def first (b : UInt8) : Step :=
  let lead := b.toNat
  if lead < 0x80 then .char (Char.ofNat lead)
  else if lead < 0xC2 then .illFormed
  else if lead < 0xE0 then .more ⟨lead - 0xC0, 1, 0x80, 0xBF⟩
  else if lead = 0xE0 then .more ⟨0, 2, 0xA0, 0xBF⟩
  else if lead = 0xED then .more ⟨0xD, 2, 0x80, 0x9F⟩
  else if lead < 0xF0 then .more ⟨lead - 0xE0, 2, 0x80, 0xBF⟩
  else if lead = 0xF0 then .more ⟨0, 3, 0x90, 0xBF⟩
  else if lead < 0xF4 then .more ⟨lead - 0xF0, 3, 0x80, 0xBF⟩
  else if lead = 0xF4 then .more ⟨4, 3, 0x80, 0x8F⟩
  else .illFormed

def Begun.next (p : Begun) (b : UInt8) : Step :=
  if p.low ≤ b.toNat ∧ b.toNat ≤ p.high then
    let value := p.value * 64 + (b.toNat - 0x80)
    if p.owed ≤ 1 then .char (Char.ofNat value) else .more ⟨value, p.owed - 1, 0x80, 0xBF⟩
  else .illFormed

def step : Option Begun → UInt8 → Step
  | none, b => first b
  | some p, b => p.next b

def decodeFrom : Option Begun → List UInt8 → Option (List Char)
  | none, [] => some []
  | some _, [] => none
  | p, b :: rest =>
    match step p b with
    | .char c => (decodeFrom none rest).map (c :: ·)
    | .more p => decodeFrom (some p) rest
    | .illFormed => none

def decode? (bytes : List UInt8) : Option (List Char) := decodeFrom none bytes

def encodeChar (c : Char) : List UInt8 := String.utf8EncodeChar c

def encode (chars : List Char) : List UInt8 := chars.flatMap encodeChar

end PackageInstall.Utf8
