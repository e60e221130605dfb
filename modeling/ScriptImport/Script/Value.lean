/-
# Values of scripts

Undefined, null, booleans, numbers and strings are values by themselves.  Arrays and objects can change,
so a value only names them and the `Store` holds what is in them; two values that name the same array
are the same array.  A scope is the path of frames from the innermost to the outermost, and a frame
holds the bindings of one block, call or module.

A function closes over a scope.  While it is bound in the first frame of that very scope it holds the
scope weakly, so that the frame and the function do not keep each other alive.  The exports of a module
that has run are a value, too.
-/

import ScriptImport.Dict
import ScriptImport.Host
import ScriptImport.Json.Fault
import ScriptImport.Syntax.Tree

namespace ScriptImport
namespace Script

/-- The name of an array of the store. -/
abbrev ArrayId := Nat

/-- The name of an object of the store. -/
abbrev ObjectId := Nat

/-- The name of a frame of the store. -/
abbrev FrameId := Nat

/-- The frames in which a name is looked for, the innermost one first. -/
abbrev Scope := List FrameId

/-- Tells apart values that look the same. -/
abbrev Identity := Nat

/-- Whether a function keeps its scope alive. -/
inductive Hold where
  | strong
  | weak
  deriving Repr, DecidableEq

/-- A function with the scope it was made in, and the global object of the module that made it. -/
structure Closure where
  identity : Identity
  function : Syntax.Function
  scope : Scope
  context : ObjectId
  hold : Hold

/-- Where text is printed. -/
inductive Stream where
  | output
  | error
  deriving Repr, DecidableEq

/-- Functions of one number. -/
inductive MathFunction where
  | floor | ceil | round | abs | sqrt | trunc
  deriving Repr, DecidableEq

/-- Methods of arrays. -/
inductive ArrayMethod where
  | push | join | includes
  deriving Repr, DecidableEq

/-- Methods of strings. -/
inductive StringMethod where
  | toUpperCase | toLowerCase | trim | includes | startsWith | slice
  deriving Repr, DecidableEq

/-- Functions on paths. -/
inductive PathFunction where
  | join | dirname | basename | extname
  deriving Repr, DecidableEq

/-- What can be asked about the machine. -/
inductive HostQuestion where
  | arch | platform | home | temporary | directory
  deriving Repr, DecidableEq

/-- What a function that is no script does. -/
inductive Operation where
  | print (stream : Stream)
  | stringify
  | parseJson
  | math (function : MathFunction)
  | greatest
  | least
  | toString
  | toNumber
  | toBoolean
  | arrayMethod (method : ArrayMethod) (array : ArrayId)
  | stringMethod (method : StringMethod) (text : String)
  | path (function : PathFunction)
  | host (question : HostQuestion)
  | sha256
  | countArguments
  deriving Repr, DecidableEq

/-- A function that is no script. -/
structure Native where
  identity : Identity
  name : String
  operation : Operation
  deriving Repr, DecidableEq

/-- Values. -/
inductive Value where
  | undefined
  | null
  | bool (value : Bool)
  | number (value : Float)
  | string (value : String)
  | array (id : ArrayId)
  | object (id : ObjectId)
  | function (closure : Closure)
  | native (native : Native)
  | exports (identity : Identity) (url : String) (entries : List (String × Value))

instance : Inhabited Value := ⟨.undefined⟩

/-- The exports of a module that has run. -/
structure Namespace where
  identity : Identity
  url : String
  entries : Dict Value

/-- The exports of a module as a value. -/
def Namespace.value (n : Namespace) : Value := .exports n.identity n.url n.entries

/-- A bound name. -/
structure Binding where
  value : Value
  mutable : Bool

/-- The bindings of one block, call or module. -/
abbrev Frame := Dict Binding

/-- All that running scripts can change, and the machine they run on. -/
structure Store where
  host : Host
  arrays : Array (List Value)
  objects : Array (Dict Value)
  frames : Array Frame
  identities : Identity
  output : String
  errors : String

/-- The store before anything has run. -/
def Store.empty (host : Host) : Store := ⟨host, #[], #[], #[], 0, "", ""⟩

namespace Store

/-- The items of an array. -/
def array (s : Store) (a : ArrayId) : List Value := s.arrays.getD a []

/-- The properties of an object. -/
def object (s : Store) (o : ObjectId) : Dict Value := s.objects.getD o []

/-- The bindings of a frame. -/
def frame (s : Store) (f : FrameId) : Frame := s.frames.getD f []

end Store

/-- Why a value cannot be used as it is. -/
inductive Misuse where
  | notCallable (shown : String)
  | readOf (shown : String) (key : String)
  | writeTo (shown : String) (key : String)
  | keyOfArray (key : String)
  | indexTooFar (index length : Nat)
  | readOnlyExport (key url : String)
  | circular
  | lostScope (name : String)
  deriving Repr

/-- The message of a misuse. -/
def Misuse.text : Misuse → String
  | notCallable shown => shown ++ " is not a function"
  | readOf shown key => "Cannot read properties of " ++ shown ++ " (reading '" ++ key ++ "')"
  | writeTo shown key => "Cannot set properties of " ++ shown ++ " (setting '" ++ key ++ "')"
  | keyOfArray key => "Cannot set property '" ++ key ++ "' of an array"
  | indexTooFar index length =>
    "Invalid array index " ++ toString index ++ " for array of length " ++ toString length
  | readOnlyExport key url =>
    "Cannot assign to read only property '" ++ key ++ "' of module '" ++ url ++ "'"
  | circular => "Converting circular structure to JSON"
  | lostScope name => name ++ " outlived its defining scope"

/-- Why running a script stopped. -/
inductive EvalError where
  | unbound (name : String)
  | misuse (misuse : Misuse)
  | badJson (error : Json.ReadError)
  | constant (name : String)
  | thrown (value : Value)
  | tooManyCalls

/-- What running a script does: it changes the store, and it gives a result or an error. -/
abbrev Run := ExceptT EvalError (StateM Store)

namespace Run

/-- A new identity. -/
def identity : Run Identity :=
  modifyGet fun s => (s.identities, { s with identities := s.identities + 1 })

/-- A new array with these items. -/
def newArray (items : List Value) : Run Value :=
  modifyGet fun s => (.array s.arrays.size, { s with arrays := s.arrays.push items })

/-- A new object with these properties. -/
def newObject (properties : Dict Value) : Run ObjectId :=
  modifyGet fun s => (s.objects.size, { s with objects := s.objects.push properties })

/-- A new frame without bindings. -/
def newFrame : Run FrameId :=
  modifyGet fun s => (s.frames.size, { s with frames := s.frames.push [] })

/-- A new function that is no script. -/
def newNative (name : String) (operation : Operation) : Run Value := do
  return .native ⟨← identity, name, operation⟩

/-- Changes the items of an array. -/
def modifyArray (a : ArrayId) (f : List Value → List Value) : Run Unit :=
  modify fun s => { s with arrays := s.arrays.modify a f }

/-- Changes the properties of an object. -/
def modifyObject (o : ObjectId) (f : Dict Value → Dict Value) : Run Unit :=
  modify fun s => { s with objects := s.objects.modify o f }

/-- Changes the bindings of a frame. -/
def modifyFrame (f : FrameId) (change : Frame → Frame) : Run Unit :=
  modify fun s => { s with frames := s.frames.modify f change }

/-- Prints a line. -/
def print (stream : Stream) (line : String) : Run Unit :=
  match stream with
  | .output => modify fun s => { s with output := s.output ++ line ++ "\n" }
  | .error => modify fun s => { s with errors := s.errors ++ line ++ "\n" }

/-- Stops because of a misuse. -/
def misuse {α : Type} (m : Misuse) : Run α := throw (.misuse m)

end Run

end Script
end ScriptImport
