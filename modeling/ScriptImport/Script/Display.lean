/-
# Text of values

`display` is the text that string conversion gives: an array is the text of its items with commas, an
object is `[object Object]`.  `inspect` is the text for people: strings are quoted, arrays and objects
show what is in them.

Both walk over arrays and objects that may contain themselves.  The walk carries the containers it is
inside of; one that it meets again is cut off, to nothing when displayed and to `[Circular]` when inspected.
A container met for the first time is one more on the path, so the number of containers of the store
bounds how deep the walk gets, and a walk with no containers left to enter cuts off.
-/

import ScriptImport.Number.Text
import ScriptImport.Script.Value
import ScriptImport.Text.Quoted

namespace ScriptImport
namespace Script

/-- The name of a function as its text shows it. -/
def Closure.shownName (c : Closure) : String := c.function.name.getD ""

/-- The text of a value, given the text of an array. -/
def showWith (array : ArrayId → String) : Value → String
  | .undefined => "undefined"
  | .null => "null"
  | .bool b => toString b
  | .number x => Number.text x
  | .string s => s
  | .array a => array a
  | .object _ => "[object Object]"
  | .function c => "function " ++ c.shownName ++ "() \x7b [code] \x7d"
  | .native n => "function " ++ n.name ++ "() \x7b [native code] \x7d"
  | .exports .. => "[object Module]"

/-- The text of an item of an array: nothing for undefined and null. -/
def showItem (array : ArrayId → String) : Value → String
  | .undefined => ""
  | .null => ""
  | v => showWith array v

namespace Store

/-- The items of an array with a separator between them, inside the arrays of `path`. -/
def joinIn (s : Store) : (budget : Nat) → (path : List ArrayId) → (separator : String) → ArrayId → String
  | 0, _, _, _ => ""
  | budget + 1, path, separator, a =>
    if a ∈ path then ""
    else
      String.intercalate separator
        ((s.array a).map (showItem fun inner => joinIn s budget (a :: path) "," inner))

/-- The items of an array with a separator between them. -/
def join (s : Store) (separator : String) (a : ArrayId) : String :=
  s.joinIn s.arrays.size [] separator a

/-- The text of a value. -/
def display (s : Store) (v : Value) : String := showWith (s.join ",") v

/-- The name of an array or an object. -/
inductive Container where
  | array (id : ArrayId)
  | object (id : ObjectId)
  deriving DecidableEq

/-- A value for people, inside the containers of `path`. -/
def inspectIn (s : Store) : (budget : Nat) → (path : List Container) → Value → String
  | _, _, .string t => Text.quote t
  | _, _, .exports _ url _ => "[Module " ++ url ++ "]"
  | 0, _, .array _ => "[Circular]"
  | 0, _, .object _ => "[Circular]"
  | budget + 1, path, .array a =>
    if .array a ∈ path then "[Circular]"
    else
      "[" ++ String.intercalate ", " ((s.array a).map (inspectIn s budget (.array a :: path))) ++ "]"
  | budget + 1, path, .object o =>
    if .object o ∈ path then "[Circular]"
    else
      "\x7b" ++ String.intercalate ", " ((s.object o).map fun (key, v) =>
        Text.quote key ++ ": " ++ inspectIn s budget (.object o :: path) v) ++ "\x7d"
  | _, _, v => showWith (fun _ => "") v

/-- A value for people. -/
def inspect (s : Store) (v : Value) : String :=
  s.inspectIn (s.arrays.size + s.objects.size) [] v

end Store

/-- The message of an error. -/
def EvalError.message (s : Store) : EvalError → String
  | unbound name => "ReferenceError: " ++ name ++ " is not defined"
  | misuse m => "TypeError: " ++ m.text
  | badJson e => "SyntaxError: JSON.parse: " ++ e.message
  | constant name => "TypeError: Assignment to constant variable '" ++ name ++ "'"
  | thrown v => "Uncaught " ++ s.display v
  | tooManyCalls => "RangeError: Maximum call stack size exceeded"

end Script
end ScriptImport
