import PackageInstall.Json
import PackageInstall.Json.Fault

namespace PackageInstall.Json

/-- The part of a numeral that has been read. Digits past 64 bits only count in `power`. -/
inductive Numeral where
  | minus
  | zero (negative : Bool)
  | whole (negative : Bool) (digits : Nat)
  | long (negative : Bool) (digits power : Nat)
  | point (negative : Bool) (digits : Nat) (power : Int)
  | fraction (negative : Bool) (digits : Nat) (power : Int)
  | longFraction (negative : Bool) (digits : Nat) (power : Int)
  | mark (negative : Bool) (digits : Nat) (power : Int)
  | sign (negative : Bool) (digits : Nat) (power : Int) (down : Bool)
  | exponent (negative : Bool) (digits : Nat) (power : Int) (down : Bool) (value : Nat)
  | vanished (negative : Bool)
  deriving DecidableEq

namespace Numeral

inductive Step where
  | more (numeral : Numeral)
  | ended
  | fault (fault : Fault)
  deriving DecidableEq

def isDigit (b : UInt8) : Bool := 0x30 ≤ b.toNat ∧ b.toNat ≤ 0x39

def digit (b : UInt8) : Nat := b.toNat - 0x30

def isMark (b : UInt8) : Bool := b = 0x65 ∨ b = 0x45

def isPoint (b : UInt8) : Bool := b = 0x2E

def wordLimit : Nat := twoTo 64

def exponentLimit : Nat := twoTo 31

/-- One more digit of an exponent. Past the limit a number is infinite, or zero. -/
def exponentDigit (negative : Bool) (digits : Nat) (power : Int) (down : Bool) (value : Nat)
    (b : UInt8) : Step :=
  if value * 10 + digit b < exponentLimit then
    .more (.exponent negative digits power down (value * 10 + digit b))
  else if digits ≠ 0 ∧ down = false then .fault .numberTooLarge
  else .more (.vanished negative)

def step : Numeral → UInt8 → Step
  | minus, b =>
    if b = 0x30 then .more (.zero true)
    else if isDigit b then .more (.whole true (digit b))
    else .fault .badNumber
  | zero negative, b =>
    if isDigit b then .fault .badNumber
    else if isPoint b then .more (.point negative 0 0)
    else if isMark b then .more (.mark negative 0 0)
    else .ended
  | whole negative digits, b =>
    if isDigit b then
      if digits * 10 + digit b < wordLimit then .more (.whole negative (digits * 10 + digit b))
      else .more (.long negative digits 1)
    else if isPoint b then .more (.point negative digits 0)
    else if isMark b then .more (.mark negative digits 0)
    else .ended
  | long negative digits power, b =>
    if isDigit b then .more (.long negative digits (power + 1))
    else if isPoint b then .more (.point negative digits power)
    else if isMark b then .more (.mark negative digits power)
    else .ended
  | point negative digits power, b =>
    if isDigit b then
      if digits * 10 + digit b < wordLimit then
        .more (.fraction negative (digits * 10 + digit b) (power - 1))
      else .more (.longFraction negative digits power)
    else .fault .badNumber
  | fraction negative digits power, b =>
    if isDigit b then
      if digits * 10 + digit b < wordLimit then
        .more (.fraction negative (digits * 10 + digit b) (power - 1))
      else .more (.longFraction negative digits power)
    else if isMark b then .more (.mark negative digits power)
    else .ended
  | longFraction negative digits power, b =>
    if isDigit b then .more (.longFraction negative digits power)
    else if isMark b then .more (.mark negative digits power)
    else .ended
  | mark negative digits power, b =>
    if b = 0x2B then .more (.sign negative digits power false)
    else if b = 0x2D then .more (.sign negative digits power true)
    else if isDigit b then exponentDigit negative digits power false 0 b
    else .fault .badNumber
  | sign negative digits power down, b =>
    if isDigit b then exponentDigit negative digits power down 0 b else .fault .badNumber
  | exponent negative digits power down value, b =>
    if isDigit b then exponentDigit negative digits power down value b else .ended
  | vanished negative, b => if isDigit b then .more (.vanished negative) else .ended

def powerLimit : Nat := 308

/-- Divides by the greatest power as long as the exponent is below it, then by what is left. -/
def divided (m left : Nat) : Nat :=
  if m = 0 then 0
  else if powerLimit < left then
    divided (Binary64.div m (Binary64.roundNat (tenTo powerLimit))) (left - powerLimit)
  else Binary64.div m (Binary64.roundNat (tenTo left))
termination_by left
decreasing_by
  have : powerLimit = 308 := rfl
  omega

def scaled (negative : Bool) (digits : Nat) (power : Int) : Except Fault Json :=
  let m := Binary64.roundNat digits
  if power < 0 then .ok (.float (.ofMagnitude negative (divided m power.natAbs)))
  else if powerLimit < power.toNat then
    if m = 0 then .ok (.float (.ofMagnitude negative 0)) else .error .numberTooLarge
  else
    let product := Binary64.mul m (Binary64.roundNat (tenTo power.toNat))
    if product < Binary64.infinite then .ok (.float (.ofMagnitude negative product))
    else .error .numberTooLarge

/-- Zero below zero and whole numbers below 64 bits are floats. -/
def ofWhole (negative : Bool) (digits : Nat) : Json :=
  if negative = false then .int digits
  else if digits = 0 ∨ twoTo 63 < digits then
    .float (.ofMagnitude true (Binary64.roundNat digits))
  else .int (-digits)

def value : Numeral → Except Fault Json
  | zero negative => .ok (ofWhole negative 0)
  | whole negative digits => .ok (ofWhole negative digits)
  | long negative digits power => scaled negative digits power
  | fraction negative digits power | longFraction negative digits power =>
    scaled negative digits power
  | exponent negative digits power down value =>
    scaled negative digits (if down then power - value else power + value)
  | vanished negative => .ok (.float (.ofMagnitude negative 0))
  | minus | point .. | mark .. | sign .. => .error .endInValue

end Numeral

end PackageInstall.Json
