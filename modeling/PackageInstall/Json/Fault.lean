namespace PackageInstall.Json

/-- A line, counted from one, and the bytes of it that lie behind. -/
structure Place where
  line : Nat
  column : Nat
  deriving DecidableEq, Inhabited

namespace Place

def start : Place := ⟨1, 0⟩

def after (p : Place) (b : UInt8) : Place :=
  if b = 0x0A then ⟨p.line + 1, 0⟩ else ⟨p.line, p.column + 1⟩

def back (p : Place) (bytes : Nat) : Place := ⟨p.line, p.column - bytes⟩

end Place

inductive Fault where
  | endInArray
  | endInObject
  | endInString
  | endInValue
  | noColon
  | noItemEnd
  | noFieldEnd
  | unknownWord
  | noValue
  | unknownEscape
  | badNumber
  | numberTooLarge
  | badCharacter
  | controlInString
  | keyIsNoString
  | loneSurrogate
  | halfSurrogatePair
  | commaBeforeEnd
  | moreAfterValue
  | tooDeep
  deriving DecidableEq

def Fault.message : Fault → String
  | endInArray => "EOF while parsing a list"
  | endInObject => "EOF while parsing an object"
  | endInString => "EOF while parsing a string"
  | endInValue => "EOF while parsing a value"
  | noColon => "expected `:`"
  | noItemEnd => "expected `,` or `]`"
  | noFieldEnd => "expected `,` or `\x7d`"
  | unknownWord => "expected ident"
  | noValue => "expected value"
  | unknownEscape => "invalid escape"
  | badNumber => "invalid number"
  | numberTooLarge => "number out of range"
  | badCharacter => "invalid unicode code point"
  | controlInString => "control character (\\u0000-\\u001F) found while parsing a string"
  | keyIsNoString => "key must be a string"
  | loneSurrogate => "lone leading surrogate in hex escape"
  | halfSurrogatePair => "unexpected end of hex escape"
  | commaBeforeEnd => "trailing comma"
  | moreAfterValue => "trailing characters"
  | tooDeep => "recursion limit exceeded"

structure FaultAt where
  fault : Fault
  place : Place
  deriving DecidableEq

def FaultAt.message (f : FaultAt) : String :=
  f.fault.message ++ " at line " ++ toString f.place.line ++ " column " ++ toString f.place.column

end PackageInstall.Json
