/-
# Reading JSON values

Arrays and objects may be nested `maxOpen` deep.  `valueIn n` reads a value inside which `n` more may be
open at a time.  Of equal keys of an object the last one counts.  Behind the value of a text only blanks
may follow.
-/

import ScriptImport.Json.Number

namespace ScriptImport
namespace Json

/-- How many arrays and objects may be open at a time. -/
def maxOpen : Nat := 127

namespace Reader

/-- Whether an array has a further item; commas are passed over. -/
def moreItems (first : Bool) : Reader Bool := do
  match ← peekPast with
  | none => failNext .endOfList
  | some c =>
    if c = ']' then return false
    else if first then return true
    else if c = ',' then
      skip
      match ← peekPast with
      | none => failNext .endOfValue
      | some d => if d = ']' then failNext .trailingComma else return true
    else failNext .missingListComma

/-- Whether an object has a further member, whose key is then in front; commas are passed over. -/
def moreMembers (first : Bool) : Reader Bool := do
  match ← peekPast with
  | none => failNext .endOfObject
  | some c =>
    if c = '\x7d' then return false
    else if first then
      if c = '"' then return true else failNext .keyNotString
    else if c = ',' then
      skip
      match ← peekPast with
      | none => failNext .endOfValue
      | some d =>
        if d = '"' then return true
        else if d = '\x7d' then failNext .trailingComma
        else failNext .keyNotString
    else failNext .missingObjectComma

/-- Passes over the colon behind a key. -/
def colon : Reader Unit := do
  match ← peekPast with
  | none => failNext .endOfObject
  | some c => if c = ':' then skip else failNext .missingColon

/-- Reads a key and the colon behind it. -/
def key : Reader String := do
  skip
  string

/-- Reads items up to the closing bracket, which it leaves. -/
def items {α : Type} (item : Reader α) (first : Bool) : (budget : Nat) → Reader (List α)
  | 0 => failNext .endOfList
  | budget + 1 => do
    unless ← moreItems first do return []
    let v ← item
    return v :: (← items item false budget)

/-- Reads members up to the closing brace, which it leaves. -/
def members {α : Type} (value : Reader α) (first : Bool) : (budget : Nat) → Reader (List (String × α))
  | 0 => failNext .endOfObject
  | budget + 1 => do
    unless ← moreMembers first do return []
    let k ← key
    colon
    let v ← value
    return (k, v) :: (← members value false budget)

/-- Reads a value; `inner` reads the values in it, if it may have any. -/
def valueWith (inner : Option (Reader Json)) : Reader Json := do
  match ← peekPast with
  | none => failNext .endOfValue
  | some 'n' =>
    skip
    word ['u', 'l', 'l']
    return .null
  | some 't' =>
    skip
    word ['r', 'u', 'e']
    return .bool true
  | some 'f' =>
    skip
    word ['a', 'l', 's', 'e']
    return .bool false
  | some '-' =>
    skip
    return (← numeral false).value
  | some '"' =>
    skip
    return .string (← string)
  | some '[' =>
    match inner with
    | none => failNext .tooDeep
    | some inner =>
      skip
      let vs ← items inner true (← budget)
      skip
      return .array vs
  | some '\x7b' =>
    match inner with
    | none => failNext .tooDeep
    | some inner =>
      skip
      let ms ← members inner true (← budget)
      skip
      return .object (Dict.ofEntries ms)
  | some c => if c.isDigit then return (← numeral true).value else failNext .missingValue

/-- Reads a value in which `n` arrays and objects may be open at a time. -/
def valueIn : (n : Nat) → Reader Json
  | 0 => valueWith none
  | n + 1 => valueWith (some (valueIn n))

/-- Makes sure that only blanks follow. -/
def finish : Reader Unit := do
  if (← peekPast).isSome then failNext .trailingCharacters

/-- Reads a text from end to end. -/
def whole {α : Type} (reader : Reader α) (text : String) : Except ReadError α :=
  (·.1) <$> (do
    let v ← reader
    finish
    return v : Reader α).run (.start text.toList)

end Reader

/-- Reads a value. -/
def parse (text : String) : Except ReadError Json :=
  Reader.whole (Reader.valueIn maxOpen) text

end Json
end ScriptImport
