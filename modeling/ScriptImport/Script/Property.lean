/-
# Properties of values

Objects and the exports of modules have the properties that they hold.  Arrays and strings have a
length, their items or characters under decimal indices, and methods; reading a method makes a new
function each time.  Functions have a name, and scripts their number of parameters as a length.

Only arrays and objects can be written to.  An array grows up to the index that is written, but not by
more than a fixed gap.
-/

import ScriptImport.Script.Native

namespace ScriptImport
namespace Script

/-- How far behind the end of an array a write may be. -/
def maxGap : Nat := Nat.pow 2 16

/-- The index that a key is: digits, perhaps behind a plus sign, below `2 ^ 64`. -/
def index? (key : String) : Option Nat :=
  let digits :=
    match key.toList with
    | '+' :: cs => cs
    | cs => cs
  if digits.isEmpty || !digits.all Char.isDigit then none
  else
    let n := Number.ofDigits digits
    if n < Nat.pow 2 64 then some n else none

/-- The method of arrays with a name. -/
def ArrayMethod.ofName? (name : String) : Option ArrayMethod :=
  match name with
  | "push" => some push
  | "join" => some join
  | "includes" => some includes
  | _ => none

/-- The method of strings with a name. -/
def StringMethod.ofName? (name : String) : Option StringMethod :=
  match name with
  | "toUpperCase" => some toUpperCase
  | "toLowerCase" => some toLowerCase
  | "trim" => some trim
  | "includes" => some includes
  | "startsWith" => some startsWith
  | "slice" => some slice
  | _ => none

/-- The key that a value is between brackets. -/
def Store.key (s : Store) (v : Value) : String := s.display v

/-- The items of an array with the one at an index changed; undefined fills what is missing. -/
def setAt (items : List Value) (i : Nat) (v : Value) : List Value :=
  if i < items.length then items.set i v
  else items ++ List.replicate (i - items.length) .undefined ++ [v]

namespace Run

/-- Reads a property of an array. -/
def arrayProperty (a : ArrayId) (key : String) : Run Value := do
  let items := (← get).array a
  if key = "length" then return .number (Float.ofNat items.length)
  match index? key with
  | some i => return items.getD i .undefined
  | none =>
    match ArrayMethod.ofName? key with
    | some method => newNative key (.arrayMethod method a)
    | none => return .undefined

/-- Reads a property of a string. -/
def stringProperty (text key : String) : Run Value := do
  if key = "length" then return .number (Float.ofNat text.length)
  match index? key with
  | some i =>
    return ((text.toList[i]?).map fun c => Value.string (String.ofList [c])).getD .undefined
  | none =>
    match StringMethod.ofName? key with
    | some method => newNative key (.stringMethod method text)
    | none => return .undefined

/-- Reads a property. -/
def getProperty (v : Value) (key : String) : Run Value := do
  let s ← get
  match v with
  | .undefined => misuse (.readOf (s.display v) key)
  | .null => misuse (.readOf (s.display v) key)
  | .object o => return (Dict.get? (s.object o) key).getD .undefined
  | .exports _ _ entries => return (Dict.get? entries key).getD .undefined
  | .array a => arrayProperty a key
  | .string text => stringProperty text key
  | .function c =>
    if key = "name" then return .string c.shownName
    if key = "length" then return .number (Float.ofNat c.function.params.length)
    return .undefined
  | .native n => if key = "name" then return .string n.name else return .undefined
  | .bool _ => return .undefined
  | .number _ => return .undefined

/-- Writes a property. -/
def setProperty (target : Value) (key : String) (v : Value) : Run Unit := do
  let s ← get
  match target with
  | .object o => modifyObject o fun properties => Dict.insert properties key v
  | .array a =>
    match index? key with
    | some i =>
      let length := (s.array a).length
      if length ≤ i ∧ maxGap < i - length then misuse (.indexTooFar i length)
      else modifyArray a fun items => setAt items i v
    | none => misuse (.keyOfArray key)
  | .exports _ url _ => misuse (.readOnlyExport key url)
  | _ => misuse (.writeTo (s.display target) key)

end Run

end Script
end ScriptImport
