/-
# Scopes

A name is looked for in the frames of a scope from the inside out.  Binding a name puts it into the
innermost frame, over what is bound to it there; assigning changes the binding that the name has, unless
that is constant.

A function is bound weakly in the first frame of the scope that it closes over, and looking it up gives
it back with a strong hold on that scope.
-/

import ScriptImport.Script.Value

namespace ScriptImport
namespace Script

/-- Whether a value is a function that keeps a scope with the first frame `f` alive. -/
def Value.capturesStrongly (f : FrameId) : Value → Bool
  | .function c => c.hold = .strong && c.scope.head? = some f
  | _ => false

/-- A value as the frame `f` holds it. -/
def Value.storedIn (f : FrameId) : Value → Value
  | .function c =>
    if (Value.function c).capturesStrongly f then .function { c with hold := .weak } else .function c
  | v => v

/-- Whether a scope still exists. -/
def Store.hasScope (s : Store) (scope : Scope) : Bool :=
  match scope with
  | [] => false
  | f :: _ => f < s.frames.size

/-- A value as looking up its name gives it: a function takes hold of its scope, if that still
exists. -/
def Store.loaded (s : Store) : Value → Value
  | .function c =>
    match c.hold with
    | .strong => .function c
    | .weak => if s.hasScope c.scope then .function { c with hold := .strong } else .undefined
  | v => v

/-- The value that a name has in a scope. -/
def Store.lookup? (s : Store) (name : String) : Scope → Option Value
  | [] => none
  | f :: outer =>
    match Dict.get? (s.frame f) name with
    | some b => some (s.loaded b.value)
    | none => s.lookup? name outer

/-- Whether a name is bound in the innermost frame of a scope. -/
def Store.hasOwn (s : Store) (scope : Scope) (name : String) : Bool :=
  match scope with
  | [] => false
  | f :: _ => Dict.contains (s.frame f) name

namespace Run

/-- A new scope inside another one. -/
def inner (scope : Scope) : Run Scope := do
  return (← newFrame) :: scope

/-- Binds a name in the innermost frame of a scope. -/
def declare (scope : Scope) (name : String) (v : Value) (mutable : Bool) : Run Unit :=
  match scope with
  | [] => return ()
  | f :: _ => modifyFrame f fun frame => Dict.insert frame name ⟨v.storedIn f, mutable⟩

/-- Assigns to a name that a scope binds, and says whether it does. -/
def assign (name : String) (v : Value) : Scope → Run Bool
  | [] => return false
  | f :: outer => do
    match Dict.get? ((← get).frame f) name with
    | some b =>
      if b.mutable then
        modifyFrame f fun frame => Dict.insert frame name ⟨v.storedIn f, true⟩
        return true
      else throw (.constant name)
    | none => assign name v outer

end Run

end Script
end ScriptImport
