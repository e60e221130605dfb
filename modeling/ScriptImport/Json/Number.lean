/-
# Reading numbers of a JSON text

The digits of a number are collected in a significand of 64 bits.  Digits that no longer fit are dropped:
those before the point raise the exponent, those behind it do not count.  An integer that fits is an
integer; anything else is a double, computed as the significand times a power of ten, or divided by one,
in floating-point arithmetic.  So a long number may end up next to the nearest double.
-/

import ScriptImport.Json.Input
import ScriptImport.Json.Value

namespace ScriptImport
namespace Json

/-- The greatest significand. -/
def maxSignificand : Nat := Nat.pow 2 64 - 1

/-- The greatest exponent that is read. -/
def maxExponent : Nat := Nat.pow 2 31 - 1

/-- A number as it is read. -/
inductive Numeral where
  | unsigned (value : Nat)
  | signed (value : Int)
  | float (value : Float)

/-- The JSON value of a number. -/
def Numeral.value : Numeral → Json
  | unsigned n => .integer n
  | signed n => .integer n
  | float x => .float x

/-- How a message shows a number that is not wanted. -/
def Numeral.found : Numeral → Found
  | unsigned n => .integer n
  | signed n => .integer n
  | float x => .float (Number.scientific x)

/-- Divides by powers of ten until the exponent is at hand; `rounds` of them leave zero. -/
def divideDown : (rounds : Nat) → Float → Int → Float
  | 0, x, _ => x
  | rounds + 1, x, exponent =>
    if -308 ≤ exponent then x / Number.ofDecimal 1 (-exponent)
    else if x == 0.0 then x
    else divideDown rounds (x / Number.ofDecimal 1 308) (exponent + 308)

/-- `significand · 10 ^ exponent`; none if that is out of range. -/
def scale? (significand : Nat) (exponent : Int) : Option Float :=
  let x := Float.ofNat significand
  if 0 ≤ exponent then
    if exponent ≤ 308 then
      let y := x * Number.ofDecimal 1 exponent
      if y == Number.infinity then none else some y
    else if x == 0.0 then some x
    else none
  else some (divideDown 4 x exponent)

/-- Adds digits to a significand while it fits; the digits that are left over. -/
def absorb (significand : Nat) : List Char → Nat × List Char
  | [] => (significand, [])
  | c :: cs =>
    let n := 10 * significand + (c.toNat - 48)
    if n ≤ maxSignificand then absorb n cs else (significand, c :: cs)

namespace Reader

/-- The double of a significand and an exponent with a sign. -/
def scaled (positive : Bool) (significand : Nat) (exponent : Int) : Reader Float := do
  match scale? significand exponent with
  | some x => return if positive then x else -x
  | none => fail .outOfRange

/-- Reads the further digits of an exponent; none if it gets too great. -/
def exponentDigits (exponent : Nat) : (budget : Nat) → Reader (Option Nat)
  | 0 => return some exponent
  | budget + 1 => do
    match ← peek with
    | some c =>
      if c.isDigit then
        skip
        let n := 10 * exponent + (c.toNat - 48)
        if n ≤ maxExponent then exponentDigits n budget else return none
      else return some exponent
    | none => return some exponent

/-- Reads an exponent, whose letter is in front. -/
def exponent (positive : Bool) (significand : Nat) (start : Int) : Reader Float := do
  skip
  let up ← match ← peek with
    | some '+' => do
      skip
      pure true
    | some '-' => do
      skip
      pure false
    | _ => pure true
  match ← peek with
  | none => fail .endOfValue
  | some c =>
    unless c.isDigit do failNext .badNumber
    match ← exponentDigits 0 (← budget) with
    | some n => scaled positive significand (if up then start + n else start - n)
    | none =>
      if significand ≠ 0 ∧ up then fail .outOfRange
      let _ ← takeWhile Char.isDigit
      return if positive then 0.0 else -0.0

/-- Whether a character starts an exponent. -/
def isExponentMark (c : Option Char) : Bool := c = some 'e' || c = some 'E'

/-- Reads a fraction, whose point is in front. -/
def fraction (positive : Bool) (significand : Nat) (start : Int) : Reader Float := do
  skip
  let digits ← takeWhile Char.isDigit
  if digits.isEmpty then
    if (← peek).isNone then failNext .endOfValue else failNext .badNumber
  let (significand, rest) := absorb significand digits
  let power := start - (digits.length - rest.length : Nat)
  if isExponentMark (← peek) then exponent positive significand power
  else scaled positive significand power

/-- Reads a number behind its sign. -/
def numeral (positive : Bool) : Reader Numeral := do
  match ← peek with
  | none => fail .endOfValue
  | some c =>
    unless c.isDigit do failNext .badNumber
    if c = '0' then
      skip
      if (← peek).any Char.isDigit then failNext .badNumber
      rest 0 []
    else
      let (significand, dropped) := absorb 0 (← takeWhile Char.isDigit)
      rest significand dropped
where
  /-- Reads what follows the integral digits, of which `dropped` did not fit. -/
  rest (significand : Nat) (dropped : List Char) : Reader Numeral := do
    if (← peek) = some '.' then return .float (← fraction positive significand dropped.length)
    if isExponentMark (← peek) then return .float (← exponent positive significand dropped.length)
    if !dropped.isEmpty then return .float (← scaled positive significand dropped.length)
    if positive then return .unsigned significand
    if significand = 0 ∨ Nat.pow 2 63 < significand then return .float (-Float.ofNat significand)
    return .signed (-(significand : Int))

end Reader
end Json
end ScriptImport
