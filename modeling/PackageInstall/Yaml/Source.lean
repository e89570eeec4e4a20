import PackageInstall.Text.Utf8

namespace PackageInstall.Yaml

structure Source where
  chars : List Char
  broken : Bool

namespace Source

def window : Nat := 16384

def isAllowed (c : Char) : Bool :=
  let code := c.toNat
  code = 0x9 ∨ code = 0xA ∨ code = 0xD ∨ (0x20 ≤ code ∧ code ≤ 0x7E) ∨ code = 0x85 ∨
    (0xA0 ≤ code ∧ code ≤ 0xFFFD) ∨ 0x10000 ≤ code

def width (lead : UInt8) : Nat :=
  let n := lead.toNat
  if n < 0x80 then 1
  else if n < 0xC0 then 0
  else if n < 0xE0 then 2
  else if n < 0xF0 then 3
  else if n < 0xF8 then 4
  else 0

def readWindow (done : List Char) : Nat → List UInt8 → Option (List Char × List UInt8)
  | _, [] => some (done, [])
  | 0, rest => some (done, rest)
  | left + 1, bytes@(lead :: _) =>
    let w := width lead
    if w = 0 then none
    else if (bytes.take w).length < w then some (done, bytes)
    else
      match Utf8.decode? (bytes.take w) with
      | some [c] => if isAllowed c then readWindow (c :: done) left (bytes.drop w) else none
      | _ => none

/-- Reads window after window. Bytes that one cuts off stand at the front of the next. -/
def readWindows (done : List Char) (cut : List UInt8) : Nat → List UInt8 → Source
  | 0, _ => ⟨done.reverse, true⟩
  | left + 1, rest =>
    if rest.isEmpty then ⟨done.reverse, !cut.isEmpty⟩
    else
      let bytes := cut ++ rest.take (window - cut.length)
      match readWindow done bytes.length bytes with
      | none => ⟨done.reverse, true⟩
      | some (done, cut') => readWindows done cut' left (rest.drop (window - cut.length))

def ofBytes (bytes : List UInt8) : Source := readWindows [] [] (bytes.length + 1) bytes

end Source

end PackageInstall.Yaml
