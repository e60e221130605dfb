/-
# Passing over JSON values

A value that nobody asks for is passed over and not made.  So less is asked of it than of a value that is
read: a number may have any size, escapes may name half a pair of surrogates, and arrays and objects may
be nested without limit.

The brackets that are open are kept in a list, the innermost one first.  Every round passes over the
start of one value and over what stands in front of the next one, until no bracket is open any more.
-/

import ScriptImport.Json.Read

namespace ScriptImport
namespace Json

/-- A bracket that is open. -/
inductive Bracket where
  | array
  | object
  deriving DecidableEq, Repr

namespace Bracket

/-- The character that closes a bracket. -/
def close : Bracket → Char
  | array => ']'
  | object => '\x7d'

/-- The fault of a text that ends inside a bracket. -/
def endFault : Bracket → Fault
  | array => .endOfList
  | object => .endOfObject

/-- The fault of a value inside a bracket that neither a comma nor the closing bracket follows. -/
def gapFault : Bracket → Fault
  | array => .missingListComma
  | object => .missingObjectComma

end Bracket

namespace Reader

/-- Passes over the digits of an exponent, whose letter is in front. -/
def passExponent : Reader Unit := do
  skip
  if (← peek) = some '+' ∨ (← peek) = some '-' then skip
  if (← takeWhile Char.isDigit).isEmpty then failNext .badNumber

/-- Passes over the digits behind a point, which is in front. -/
def passFraction : Reader Unit := do
  skip
  if (← takeWhile Char.isDigit).isEmpty then failNext .badNumber
  if isExponentMark (← peek) then passExponent

/-- Passes over a number behind its sign. -/
def passNumber : Reader Unit := do
  if (← peek) = some '0' then
    skip
    if (← peek).any Char.isDigit then failNext .badNumber
  else if (← takeWhile Char.isDigit).isEmpty then failNext .badNumber
  if (← peek) = some '.' then passFraction
  else if isExponentMark (← peek) then passExponent

/-- Passes over what follows a backslash. -/
def passEscape : Reader Unit := do
  match ← peek with
  | none => fail .endOfString
  | some c =>
    if (unescape? c).isSome then skip
    else if c = 'u' then
      skip
      let _ ← fourHex
    else failNext .badEscape

/-- Passes over the inside of a string and its closing quote. -/
def passString : (budget : Nat) → Reader Unit
  | 0 => fail .endOfString
  | budget + 1 => do
    match ← peek with
    | none => fail .endOfString
    | some c =>
      if c.toNat < 32 then fail .controlCharacter
      skip
      if c = '"' then return
      if c = '\\' then passEscape
      passString budget

/-- Passes over a value that is no array and no object, or over the bracket that opens one. -/
def passStart : Reader (Option Bracket) := do
  match ← peekPast with
  | none => failNext .endOfValue
  | some c =>
    if c.isDigit then passNumber
    else
      unless c ∈ ['n', 't', 'f', '-', '"', '[', '\x7b'] do failNext .missingValue
      skip
      match c with
      | 'n' => word ['u', 'l', 'l']
      | 't' => word ['r', 'u', 'e']
      | 'f' => word ['a', 'l', 's', 'e']
      | '-' => passNumber
      | '"' => passString ((← budget) + 1)
      | _ => pure ()
    return if c = '[' then some .array else if c = '\x7b' then some .object else none

/-- Passes over the key in front of a value, if it is in an object. -/
def passKey : Bracket → Reader Unit
  | .array => return ()
  | .object => do
    match ← peekPast with
    | none => failNext .endOfObject
    | some c =>
      if c ≠ '"' then failNext .keyNotString
      skip
      passString ((← budget) + 1)
      colon

/-- Passes over what stands in front of the next value: closing brackets, then a comma, unless the
innermost bracket has only just been opened, and perhaps a key.  The brackets that are then open. -/
def passGap (fresh : Bool) : List Bracket → Reader (List Bracket)
  | [] => return []
  | b :: outer => do
    match ← peekPast with
    | none => failNext b.endFault
    | some c =>
      if c = b.close then
        skip
        passGap false outer
      else
        unless fresh do
          if c ≠ ',' then failNext b.gapFault
          skip
        passKey b
        return b :: outer

/-- Passes over values up to the end of the brackets that are open. -/
def passIn : (budget : Nat) → List Bracket → Reader Unit
  | 0, _ => failNext .endOfValue
  | budget + 1, outer => do
    let opened ← passStart
    match ← passGap opened.isSome (opened.toList ++ outer) with
    | [] => return
    | still => passIn budget still

/-- Passes over a value. -/
def passValue : Reader Unit := do passIn ((← budget) + 1) []

end Reader
end Json
end ScriptImport
