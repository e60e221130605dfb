/-
# Reading JSON of a known shape

Readers for values of one kind fail at anything else with the kind that was expected; what they found is
read to its end first, unless it is an array or an object.  A record is read from an object field by
field, where unknown fields are passed over, or from an array of the fields in their order.

A fault of the record as a whole, such as a field that is missing, is reported behind the closing bracket
if that comes next.
-/

import ScriptImport.Json.Skip
import ScriptImport.Text.Quoted

namespace ScriptImport
namespace Json
namespace Reader

/-- Fails at a value that is not the kind that was expected. -/
def refuse {α : Type} (expected : String) : Reader α := do
  let wrong (found : Found) : Reader α := fail (.shape (.wrongType found expected))
  match ← peekPast with
  | none => failNext .endOfValue
  | some 'n' =>
    skip
    word ['u', 'l', 'l']
    wrong .null
  | some 't' =>
    skip
    word ['r', 'u', 'e']
    wrong (.bool true)
  | some 'f' =>
    skip
    word ['a', 'l', 's', 'e']
    wrong (.bool false)
  | some '-' =>
    skip
    wrong (← numeral false).found
  | some '"' =>
    skip
    wrong (.string (Text.quote (← string)))
  | some '[' => wrong .sequence
  | some '\x7b' => wrong .map
  | some c => if c.isDigit then wrong (← numeral true).found else failNext .missingValue

/-- Reads a string. -/
def text (expected : String) : Reader String := do
  if (← peekPast) = some '"' then
    skip
    string
  else refuse expected

/-- Reads an integer from zero to the greatest one of 64 bits. -/
def natural : Reader Nat := do
  let accept : Numeral → Reader Nat
    | .unsigned n => return n
    | .signed n => fail (.shape (.wrongValue (.integer n) "u64"))
    | .float x => fail (.shape (.wrongType (Numeral.float x).found "u64"))
  match ← peekPast with
  | some '-' =>
    skip
    accept (← numeral false)
  | some c => if c.isDigit then accept (← numeral true) else refuse "u64"
  | none => refuse "u64"

/-- Reads an object whose values are strings. -/
def texts : Reader (Dict String) := do
  if (← peekPast) = some '\x7b' then
    skip
    let ms ← members (text "a string") true (← budget)
    skip
    return Dict.ofEntries ms
  else refuse "a map"

/-- Fails with a fault of a whole object or array that `close` ends. -/
def failWhole {α : Type} (close : Char) (mismatch : Mismatch) : Reader α := do
  if (← peekPast) = some close then skip
  fail (.shape mismatch)

end Reader

/-- A field of a record that is read into `σ`. -/
structure Field (σ : Type) where
  name : String
  required : Bool
  isSet : σ → Bool
  read : σ → Reader σ

namespace Record

variable {σ : Type}

open Reader

/-- Reads the fields of an object. -/
def members (fields : List (Field σ)) (first : Bool) : (budget : Nat) → σ → Reader σ
  | 0, _ => failNext .endOfObject
  | budget + 1, r => do
    if ← moreMembers first then
      let name ← key
      match fields.find? (·.name = name) with
      | none =>
        colon
        passValue
        members fields false budget r
      | some field =>
        if field.isSet r then failWhole '\x7d' (.duplicateField name)
        colon
        members fields false budget (← field.read r)
    else
      match fields.find? fun field => field.required && ! field.isSet r with
      | some field => failWhole '\x7d' (.missingField field.name)
      | none =>
        skip
        return r

/-- How a message names the fields of a record. -/
def shape (name : String) (count : Nat) : String :=
  "struct " ++ name ++ " with " ++ toString count ++ (if count = 1 then " element" else " elements")

/-- Reads the fields of an array, `index` of which have been read. -/
def items (name : String) (count : Nat) (index : Nat) : List (Field σ) → σ → Reader σ
  | [], r => do
    match ← peekPast with
    | none => failNext .endOfList
    | some c =>
      if c = ']' then
        skip
        return r
      else if c = ',' then
        skip
        if (← peekPast) = some ']' then failNext .trailingComma else failNext .trailingCharacters
      else failNext .trailingCharacters
  | field :: fields, r => do
    if ← moreItems (index = 0) then
      items name count (index + 1) fields (← field.read r)
    else if field.required then failWhole ']' (.tooShort index (shape name count))
    else items name count (index + 1) fields r

/-- Reads a record. -/
def read (name : String) (fields : List (Field σ)) (start : σ) : Reader σ := do
  match ← peekPast with
  | some '\x7b' =>
    skip
    members fields true (← budget) start
  | some '[' =>
    skip
    items name fields.length 0 fields start
  | _ => refuse ("struct " ++ name)

end Record
end Json
end ScriptImport
