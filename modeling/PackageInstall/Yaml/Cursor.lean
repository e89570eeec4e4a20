namespace PackageInstall.Yaml

def isBreak (c : Char) : Bool :=
  c = '\n' ∨ c = '\r' ∨ c = '\x85' ∨ c = '\u2028' ∨ c = '\u2029'

def isSpace (c : Char) : Bool := c = ' ' ∨ c = '\t'

def isWord (c : Char) : Bool := c.isAlphanum ∨ c = '_' ∨ c = '-'

structure Cursor where
  rest : List Char
  index : Nat
  line : Nat
  column : Nat

namespace Cursor

def ahead (c : Cursor) (n : Nat) : Option Char := c.rest[n]?

def peek (c : Cursor) : Option Char := c.rest.head?

def breaksAt (c : Cursor) (n : Nat) : Bool :=
  match c.ahead n with
  | none => true
  | some x => isBreak x

def blankAt (c : Cursor) (n : Nat) : Bool :=
  match c.ahead n with
  | none => true
  | some x => isSpace x || isBreak x

def skip (c : Cursor) (n : Nat) : Cursor :=
  { c with rest := c.rest.drop n, index := c.index + n, column := c.column + n }

def span (c : Cursor) (p : Char → Bool) : List Char × Cursor :=
  let run := c.rest.takeWhile p
  (run, c.skip run.length)

def skipWhile (c : Cursor) (p : Char → Bool) : Cursor := (c.span p).2

def line? (c : Cursor) : List Char × Cursor := c.span fun x => !isBreak x

def takeBreak (c : Cursor) : List Char × Cursor :=
  match c.rest with
  | '\r' :: '\n' :: rest => (['\n'], ⟨rest, c.index + 2, c.line + 1, 0⟩)
  | x :: rest =>
    if isBreak x then
      (if x = '\u2028' ∨ x = '\u2029' then [x] else ['\n'], ⟨rest, c.index + 1, c.line + 1, 0⟩)
    else ([], c)
  | [] => ([], c)

def isIndicator (c : Cursor) (x : Char) : Bool :=
  c.column = 0 && c.rest.take 3 = [x, x, x] && c.blankAt 3

def isDocumentIndicator (c : Cursor) : Bool := c.isIndicator '-' || c.isIndicator '.'

end Cursor

end PackageInstall.Yaml
