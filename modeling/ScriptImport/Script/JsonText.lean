/-
# Values as JSON and back

Functions and undefined have no JSON: they are left out of objects and become null in arrays.  The
exports of a module are an object.  An array or an object that is inside itself cannot be written; the
walk carries the containers it is inside of, as in the text of values, and the number of containers of
the store bounds how deep it gets.

Reading makes new arrays and objects.
-/

import ScriptImport.Json.Read
import ScriptImport.Script.Convert

namespace ScriptImport
namespace Script

/-- The JSON of a number: an integer if it is a short one, null if it is infinite or not a number. -/
def numberJson (x : Float) : Json :=
  match Number.shortInteger? x with
  | some n => .integer n
  | none => if x.isFinite then .float x else .null

/-- The value of the JSON number of an integer. -/
def integerFloat (n : Int) : Float := Float.ofInt n

mutual

/-- The JSON of a value, given that of containers; none if it has none, an error if it is inside
itself. -/
def jsonWith (container : Store.Container → Except Misuse Json) : Value → Except Misuse (Option Json)
  | .undefined => .ok none
  | .null => .ok (some .null)
  | .bool b => .ok (some (.bool b))
  | .number x => .ok (some (numberJson x))
  | .string s => .ok (some (.string s))
  | .array a => some <$> container (.array a)
  | .object o => some <$> container (.object o)
  | .function _ => .ok none
  | .native _ => .ok none
  | .exports _ _ entries => (fun ms => some (Json.object ms)) <$> jsonEntries container entries

/-- The members of the JSON object of some entries. -/
def jsonEntries (container : Store.Container → Except Misuse Json) :
    List (String × Value) → Except Misuse (List (String × Json))
  | [] => .ok []
  | (key, v) :: rest => do
    let first ← jsonWith container v
    let rest ← jsonEntries container rest
    return match first with
      | some j => (key, j) :: rest
      | none => rest

end

/-- The items of the JSON array of some values. -/
def jsonItems (container : Store.Container → Except Misuse Json) (vs : List Value) :
    Except Misuse (List Json) :=
  vs.mapM fun v => (·.getD .null) <$> jsonWith container v

/-- The JSON of an array or an object inside the containers of `path`. -/
def Store.containerJson (s : Store) :
    (budget : Nat) → (path : List Store.Container) → Store.Container → Except Misuse Json
  | 0, _, _ => .error .circular
  | budget + 1, path, c =>
    if c ∈ path then .error .circular
    else
      match c with
      | .array a => .array <$> jsonItems (s.containerJson budget (c :: path)) (s.array a)
      | .object o => .object <$> jsonEntries (s.containerJson budget (c :: path)) (s.object o)

/-- The JSON of a value; none if it has none. -/
def Store.toJson (s : Store) (v : Value) : Except Misuse (Option Json) :=
  jsonWith (s.containerJson (s.arrays.size + s.objects.size) []) v

mutual

/-- The value of a JSON value. -/
def Run.ofJson : Json → Run Value
  | .null => return .null
  | .bool b => return .bool b
  | .integer n => return .number (integerFloat n)
  | .float x => return .number x
  | .string s => return .string s
  | .array items => do
    let vs ← Run.ofJsonItems items
    Run.newArray vs
  | .object members => do
    let ps ← Run.ofJsonMembers members
    return .object (← Run.newObject ps)

/-- The values of JSON values. -/
def Run.ofJsonItems : List Json → Run (List Value)
  | [] => return []
  | j :: js => do
    let v ← Run.ofJson j
    return v :: (← Run.ofJsonItems js)

/-- The properties of the members of a JSON object. -/
def Run.ofJsonMembers : List (String × Json) → Run (List (String × Value))
  | [] => return []
  | (key, j) :: ms => do
    let v ← Run.ofJson j
    return (key, v) :: (← Run.ofJsonMembers ms)

end

end Script
end ScriptImport
