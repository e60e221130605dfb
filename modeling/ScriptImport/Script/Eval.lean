/-
# Running scripts

Expressions and statements are run by recursion on their syntax.  Calling a function leaves the syntax
of the caller, so the calls are a parameter: `callClosure n` allows `n` more calls inside one another and
is built from `callClosure (n - 1)`.  So everything ends: the syntax gets smaller, or there are fewer
calls left.

Calls may do more than `Run` does, so syntax is run in any monad that `Run` lifts to.

A name is looked for in the scope, then among the names that are always there, then among the properties
of the global object.  The functions that a block declares are bound before its first statement runs.
-/

import ScriptImport.Script.Property
import ScriptImport.Script.Scope

namespace ScriptImport
namespace Script

open Syntax

/-- How many calls may be inside one another. -/
def maxCalls : Nat := 64

/-- The name under which a module binds its default export; no source can write it. -/
def defaultBinding : String := "*default*"

/-- How a statement ends: the next one follows, or the function returns a value. -/
inductive Flow where
  | next
  | leave (value : Value)

/-- The value of a name that is always there. -/
def constantName? (context : ObjectId) (name : String) : Option Value :=
  match name with
  | "undefined" => some .undefined
  | "NaN" => some (.number Number.nan)
  | "Infinity" => some (.number Number.infinity)
  | "globalThis" => some (.object context)
  | _ => none

/-- The value of a name. -/
def Store.resolve? (s : Store) (context : ObjectId) (scope : Scope) (name : String) : Option Value :=
  (s.lookup? name scope).orElse fun _ =>
    (constantName? context name).orElse fun _ => Dict.get? (s.object context) name

namespace Run

/-- The store as it is now. -/
def current : Run Store := get

/-- Stops with a value that is thrown. -/
def throwValue {α : Type} (v : Value) : Run α := throw (.thrown v)

/-- The value of a name. -/
def readName (context : ObjectId) (scope : Scope) (name : String) : Run Value := do
  match (← get).resolve? context scope name with
  | some v => return v
  | none => throw (.unbound name)

/-- Assigns to a name: to its binding, or else to a property that the global object has. -/
def writeName (context : ObjectId) (scope : Scope) (name : String) (v : Value) : Run Unit := do
  unless ← assign name v scope do
    if Dict.contains ((← get).object context) name then
      modifyObject context fun properties => Dict.insert properties name v
    else throw (.unbound name)

/-- Makes a function over a scope. -/
def newClosure (context : ObjectId) (scope : Scope) (function : Function) : Run Value := do
  return .function ⟨← identity, function, scope, context, .strong⟩

/-- Makes a function over a scope; under its name, if it has one, it can refer to itself. -/
def newFunction (context : ObjectId) (scope : Scope) (function : Function) : Run Value := do
  match function.name with
  | none => newClosure context scope function
  | some name =>
    let own ← inner scope
    let v ← newClosure context own function
    declare own name v false
    return v

/-- Binds the function that a declaration makes. -/
def hoistDeclaration (context : ObjectId) (scope : Scope) : Declaration → Run Unit
  | .function name params body => do
    declare scope name (← newClosure context scope ⟨some name, params, .block body⟩) true
  | _ => return ()

/-- Binds the functions that statements declare. -/
def hoist (context : ObjectId) (scope : Scope) : List Stmt → Run Unit
  | [] => return ()
  | .declare d :: rest => do
    hoistDeclaration context scope d
    hoist context scope rest
  | _ :: rest => hoist context scope rest

variable {m : Type → Type} [Monad m] [MonadLiftT Run m]

mutual

/-- The value of an expression. -/
def eval (call : Value → List Value → m Value) (context : ObjectId) : Expr → Scope → m Value
  | .number x, _ => return .number x
  | .string s, _ => return .string s
  | .bool b, _ => return .bool b
  | .null, _ => return .null
  | .name x, scope => readName context scope x
  | .array items, scope => do
    let vs ← evalList call context items scope
    newArray vs
  | .object entries, scope => do
    let es ← evalEntries call context entries scope
    return .object (← newObject (Dict.ofEntries es))
  | .member e key, scope => do
    let v ← eval call context e scope
    getProperty v key
  | .index e i, scope => do
    let v ← eval call context e scope
    let k ← eval call context i scope
    getProperty v ((← current).key k)
  | .call callee args, scope => do
    let f ← eval call context callee scope
    let vs ← evalList call context args scope
    call f vs
  | .function name params body, scope => newFunction context scope ⟨name, params, .block body⟩
  | .arrow params e, scope => newClosure context scope ⟨none, params, .value e⟩
  | .unary .typeof (.name x), scope => do
    return .string (((← current).resolve? context scope x).getD .undefined).typeName
  | .unary op e, scope => do
    let v ← eval call context e scope
    match op with
    | .not => return .bool !v.isTruthy
    | .negate => return .number (-v.toNumber)
    | .typeof => return .string v.typeName
  | .binary op a b, scope => do
    let x ← eval call context a scope
    let y ← eval call context b scope
    return (← current).binary op x y
  | .logical op a b, scope => do
    let x ← eval call context a scope
    match op, x.isTruthy with
    | .and, false => return x
    | .or, true => return x
    | _, _ => eval call context b scope
  | .conditional test a b, scope => do
    let t ← eval call context test scope
    if t.isTruthy then eval call context a scope else eval call context b scope
  | .assign target e, scope => do
    let v ← eval call context e scope
    assignTo call context target v scope
    return v

/-- Assigns a value to a target. -/
def assignTo (call : Value → List Value → m Value) (context : ObjectId) :
    Target → Value → Scope → m Unit
  | .name x, v, scope => writeName context scope x v
  | .member e key, v, scope => do
    let o ← eval call context e scope
    setProperty o key v
  | .index e i, v, scope => do
    let o ← eval call context e scope
    let k ← eval call context i scope
    setProperty o ((← current).key k) v

/-- The values of expressions. -/
def evalList (call : Value → List Value → m Value) (context : ObjectId) :
    List Expr → Scope → m (List Value)
  | [], _ => return []
  | e :: es, scope => do
    let v ← eval call context e scope
    return v :: (← evalList call context es scope)

/-- The properties of an object literal. -/
def evalEntries (call : Value → List Value → m Value) (context : ObjectId) :
    List (String × Expr) → Scope → m (List (String × Value))
  | [], _ => return []
  | (key, e) :: es, scope => do
    let v ← eval call context e scope
    return (key, v) :: (← evalEntries call context es scope)

end

/-- Binds what a declaration declares, except for functions, which are bound before. -/
def execDeclaration (call : Value → List Value → m Value) (context : ObjectId) (scope : Scope) :
    Declaration → m Unit
  | .constant name e => do declare scope name (← eval call context e scope) false
  | .variable _ name none => declare scope name .undefined true
  | .variable _ name (some e) => do declare scope name (← eval call context e scope) true
  | .function .. => return ()

mutual

/-- Runs a statement. -/
def exec (call : Value → List Value → m Value) (context : ObjectId) : Stmt → Scope → m Flow
  | .declare d, scope => do
    execDeclaration call context scope d
    return .next
  | .eval e, scope => do
    let _ ← eval call context e scope
    return .next
  | .branch test consequent alternate, scope => do
    let t ← eval call context test scope
    if t.isTruthy then
      let block ← inner scope
      hoist context block consequent
      execAll call context consequent block
    else
      match alternate with
      | none => return .next
      | some statements =>
        let block ← inner scope
        hoist context block statements
        execAll call context statements block
  | .leave none, _ => return .leave .undefined
  | .leave (some e), scope => do return .leave (← eval call context e scope)
  | .throw e, scope => do throwValue (← eval call context e scope)

/-- Runs statements until one returns. -/
def execAll (call : Value → List Value → m Value) (context : ObjectId) :
    List Stmt → Scope → m Flow
  | [], _ => return .next
  | stmt :: rest, scope => do
    match ← exec call context stmt scope with
    | .next => execAll call context rest scope
    | .leave v => return .leave v

end

/-- Runs the statements of a block in its scope. -/
def execBlock (call : Value → List Value → m Value) (context : ObjectId) (statements : List Stmt)
    (scope : Scope) : m Flow := do
  hoist context scope statements
  execAll call context statements scope

/-- Binds arguments to parameters; what is missing is undefined. -/
def bindParams (scope : Scope) : List String → List Value → Run Unit
  | [], _ => return ()
  | p :: ps, args => do
    declare scope p (argument args 0) true
    bindParams scope ps args.tail

/-- Calls a value, given how functions are called. -/
def callWith (closure : Closure → List Value → m Value) (callee : Value) (args : List Value) :
    m Value :=
  match callee with
  | .native n => callNative n.operation args
  | .function c => closure c args
  | v => do misuse (.notCallable ((← current).display v))

/-- A new scope for a call, in which arguments are bound to the parameters. -/
def openScope (c : Closure) (args : List Value) : Run Scope := do
  unless (← get).hasScope c.scope do
    misuse (.lostScope (c.function.name.getD "anonymous function"))
  let scope ← inner c.scope
  bindParams scope c.function.params args
  return scope

/-- Runs a function in `context`, given how values are called. -/
def runFunction (call : Value → List Value → m Value) (context : ObjectId) (c : Closure)
    (args : List Value) : m Value := do
  let scope ← openScope c args
  match c.function.body with
  | .value e => eval call context e scope
  | .block statements =>
    match ← execBlock call context statements scope with
    | .leave v => return v
    | .next => return .undefined

/-- Calls a function from code that runs in `context`, when `n` more calls may be inside one
another. -/
def callClosure (context : ObjectId) : (n : Nat) → Closure → List Value → Run Value
  | 0, _, _ => throw .tooManyCalls
  | n + 1, c, args => runFunction (callWith (callClosure context n)) context c args

/-- Calls a value from code that runs in `context` and is in no call. -/
def call (context : ObjectId) (callee : Value) (args : List Value) : Run Value :=
  callWith (callClosure context maxCalls) callee args

/-- Calls a value from outside of scripts; a function runs in the context that it was made in. -/
def callFromOutside (callee : Value) (args : List Value) : Run Value :=
  match callee with
  | .function c => call c.context callee args
  | v => callWith (fun _ _ => throw .tooManyCalls) v args

/-- Binds the function that an item declares. -/
def hoistItem (context : ObjectId) (scope : Scope) : Item → Run Unit
  | .statement (.declare d) => hoistDeclaration context scope d
  | .exporting (.declaration d) => hoistDeclaration context scope d
  | .exporting (.defaultFunction name params body) =>
    hoistDeclaration context scope (.function name params body)
  | _ => return ()

/-- Binds the functions that items declare. -/
def hoistItems (context : ObjectId) (scope : Scope) (items : List Item) : Run Unit :=
  items.forM (hoistItem context scope)

/-- Runs an item.  A default export is bound to a name of its own. -/
def execItem (call : Value → List Value → m Value) (context : ObjectId) (scope : Scope) :
    Item → m Flow
  | .importing _ => return .next
  | .statement stmt => exec call context stmt scope
  | .exporting (.defaultValue e) => do
    declare scope defaultBinding (← eval call context e scope) false
    return .next
  | .exporting (.defaultFunction name ..) => do
    declare scope defaultBinding (((← current).lookup? name scope).getD .undefined) false
    return .next
  | .exporting (.declaration d) => do
    execDeclaration call context scope d
    return .next
  | .exporting _ => return .next

/-- Runs items until one returns. -/
def execItems (call : Value → List Value → m Value) (context : ObjectId) (scope : Scope) :
    List Item → m Unit
  | [] => return ()
  | i :: rest => do
    match ← execItem call context scope i with
    | .next => execItems call context scope rest
    | .leave _ => return ()

/-- Runs the body of a module in its scope, in which its imports are bound, given how values are
called. -/
def runModuleWith (call : Value → List Value → m Value) (context : ObjectId) (p : Program) (scope : Scope) :
    m Unit := do
  hoistItems context scope p.body
  execItems call context scope p.body

/-- Runs the body of a module. -/
def runModule (context : ObjectId) (p : Program) (scope : Scope) : Run Unit :=
  runModuleWith (call context) context p scope

end Run

end Script
end ScriptImport
