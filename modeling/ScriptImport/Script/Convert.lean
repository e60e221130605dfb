/-
# Conversions and comparisons of values

Every value has a type, a truth value, a number and a text.  Strict equality compares values of one type,
containers and functions by identity; loose equality also compares undefined with null, and numbers,
strings and booleans by their numbers.  Numbers compare as doubles do: a NaN equals nothing and both
zeros are equal.
-/

import ScriptImport.Script.Display
import ScriptImport.Text.Blank

namespace ScriptImport
namespace Script

namespace Value

/-- The name of a value's type. -/
def typeName : Value → String
  | undefined => "undefined"
  | null => "object"
  | bool _ => "boolean"
  | number _ => "number"
  | string _ => "string"
  | array _ => "object"
  | object _ => "object"
  | function _ => "function"
  | native _ => "function"
  | exports .. => "object"

/-- Whether a value can be called. -/
def isCallable : Value → Bool
  | function _ => true
  | native _ => true
  | _ => false

/-- Whether a value counts as true. -/
def isTruthy : Value → Bool
  | undefined => false
  | null => false
  | bool b => b
  | number x => x != 0.0 && !x.isNaN
  | string s => !s.isEmpty
  | _ => true

/-- The number of a text: blanks around it do not count, and nothing is zero. -/
def textNumber (s : String) : Float :=
  let t := Text.trim s.toList
  if t.isEmpty then 0.0 else (Number.read? (String.ofList t)).getD Number.nan

/-- The number of a value. -/
def toNumber : Value → Float
  | undefined => Number.nan
  | null => 0.0
  | bool b => if b then 1.0 else 0.0
  | number x => x
  | string s => textNumber s
  | _ => Number.nan

/-- Strict equality. -/
def strictEq : Value → Value → Bool
  | undefined, undefined => true
  | null, null => true
  | bool a, bool b => a == b
  | number a, number b => a == b
  | string a, string b => a == b
  | array a, array b => a == b
  | object a, object b => a == b
  | function a, function b => a.identity == b.identity
  | native a, native b => a.identity == b.identity
  | exports a _ _, exports b _ _ => a == b
  | _, _ => false

theorem eq_object_of_strictEq {o : ObjectId} {v : Value} (h : strictEq (object o) v) : v = object o := by
  cases v with
  | object o' => exact congrArg object (beq_iff_eq.1 h).symm
  | _ => cases h

theorem eq_string_of_strictEq {x : String} {v : Value} (h : strictEq (string x) v) : v = string x := by
  cases v with
  | string y => exact congrArg string (beq_iff_eq.1 h).symm
  | _ => cases h

/-- Whether a value is undefined or null. -/
def isNothing : Value → Bool
  | undefined => true
  | null => true
  | _ => false

/-- Whether loose equality compares two values by their numbers. -/
def comparesByNumber : Value → Value → Bool
  | number _, number _ => true
  | string _, number _ => true
  | bool _, number _ => true
  | number _, string _ => true
  | number _, bool _ => true
  | bool _, string _ => true
  | string _, bool _ => true
  | _, _ => false

/-- Loose equality. -/
def looseEq (a b : Value) : Bool :=
  if a.isNothing || b.isNothing then a.isNothing && b.isNothing
  else if a.comparesByNumber b then a.toNumber == b.toNumber
  else a.strictEq b

/-- Whether adding a value to another one joins their texts. -/
def joinsText : Value → Bool
  | string _ => true
  | array _ => true
  | object _ => true
  | _ => false

end Value

/-- How two values compare in order: two strings by their characters, anything else by its number. -/
structure Order where
  less : Bool
  equal : Bool
  greater : Bool

/-- The order of two values; a NaN has none. -/
def Value.order : Value → Value → Order
  | .string a, .string b => ⟨a < b, a == b, b < a⟩
  | a, b =>
    let x := a.toNumber
    let y := b.toNumber
    ⟨x < y, x == y, y < x⟩

/-- What an operator between two values gives. -/
def Store.binary (s : Store) (op : Syntax.BinaryOp) (a b : Value) : Value :=
  match op with
  | .add =>
    if a.joinsText || b.joinsText then .string (s.display a ++ s.display b)
    else .number (a.toNumber + b.toNumber)
  | .sub => .number (a.toNumber - b.toNumber)
  | .mul => .number (a.toNumber * b.toNumber)
  | .div => .number (a.toNumber / b.toNumber)
  | .rem => .number (Number.remainder a.toNumber b.toNumber)
  | .equal => .bool (a.looseEq b)
  | .notEqual => .bool (!a.looseEq b)
  | .strictEqual => .bool (a.strictEq b)
  | .strictNotEqual => .bool (!a.strictEq b)
  | .less => .bool (a.order b).less
  | .lessEqual => .bool ((a.order b).less || (a.order b).equal)
  | .greater => .bool (a.order b).greater
  | .greaterEqual => .bool ((a.order b).greater || (a.order b).equal)

end Script
end ScriptImport
