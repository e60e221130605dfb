/-
# Evaluating modules

A linked module is evaluated once: first the modules below it in their order, then itself.  Running a
program goes through these steps.

1. The names that its imports bind are declared, as constants.
2. The body runs.
3. The exports are collected, with the values that their names have then; of equal names the last one
   counts.
4. `export * from` adds the names of the other module that are not there yet, except `default`.

How a body is run, and how one goes from a module to those below it, is left open (`Evaluating`): the same evaluation
may also be done while something else is observed.  In the session it is `evaluate`.
-/

import ScriptImport.Module.Load
import ScriptImport.Script.Eval

namespace ScriptImport
namespace Module

open Script Syntax

/-- The exports of the module below `m` for a specifier. -/
def importedFrom (m : Module) (specifier : String) : Load Namespace := do
  match m.dependency? specifier with
  | none => throw (.state ⟨m.url, m.state, .evaluated⟩)
  | some dependency =>
    match dependency.exports with
    | none => throw (.state ⟨dependency.url, dependency.state, .evaluated⟩)
    | some exports => return exports

/-- The value of an export. -/
def exported (exports : Namespace) (specifier name : String) : Load Value := do
  match Dict.get? exports.entries name with
  | some v => return v
  | none => throw (.missingExport specifier name)

/-- Declares the names that an import binds. -/
def bindImport (m : Module) (scope : Scope) (i : Import) : Load Unit := do
  let exports ← m.importedFrom i.source
  if let some name := i.defaultName then
    let v ← exported exports i.source "default"
    Load.script (Run.declare scope name v false)
  match i.names with
  | .everything name => Load.script (Run.declare scope name exports.value false)
  | .some names =>
    names.forM fun n => do
      let v ← exported exports i.source n.imported
      Load.script (Run.declare scope n.localName v false)

/-- Declares the names that the imports of a program bind. -/
def bindImports (m : Module) (scope : Scope) (p : Program) : Load Unit :=
  p.body.forM fun item => do
    match item with
    | .importing i => m.bindImport scope i
    | _ => return ()

/-- The value that a name has in the scope of a module. -/
def localValue (scope : Scope) (name : String) : Load Value := do
  match (← get).scripts.lookup? name scope with
  | some v => return v
  | none => throw (.eval (.unbound name))

/-- The exports that an item adds to `entries`. -/
def collect (m : Module) (scope : Scope) (entries : Dict Value) : Item → Load (Dict Value)
  | .exporting (.defaultValue _) => do
    return Dict.insert entries "default" (← localValue scope defaultBinding)
  | .exporting (.defaultFunction ..) => do
    return Dict.insert entries "default" (← localValue scope defaultBinding)
  | .exporting (.declaration d) => do
    return Dict.insert entries d.name (← localValue scope d.name)
  | .exporting (.names names) =>
    names.foldlM (fun entries n => do
      return Dict.insert entries n.exported (← localValue scope n.localName)) entries
  | .exporting (.namesFrom names source) => do
    let exports ← m.importedFrom source
    names.foldlM (fun entries n => do
      return Dict.insert entries n.exported (← exported exports source n.localName)) entries
  | _ => return entries

/-- Adds an export of another module, if it is not `default` and the name is not there yet. -/
def addMissing (entries : Dict Value) (e : String × Value) : Dict Value :=
  if e.1 = "default" ∨ Dict.contains entries e.1 then entries else Dict.insert entries e.1 e.2

/-- Adds the exports of other modules that an item passes on as they are. -/
def passOn (m : Module) (entries : Dict Value) : Item → Load (Dict Value)
  | .exporting (.allFrom source) => do
    let exports ← m.importedFrom source
    return exports.entries.foldl addMissing entries
  | _ => return entries

/-- The scope of a module in which the names that its imports bind are declared. -/
def importScope (m : Module) (p : Program) : Load Scope := do
  let scope ← Load.script (Run.inner [])
  m.bindImports scope p
  return scope

/-- The values of a builtin module for the names that it exported when it was built. -/
def valuesOf (b : Builtin) (names : List String) : Load (Dict Value) :=
  names.foldlM (fun entries name => do
    return Dict.insert entries name ((← Load.script (b.value? name)).getD .undefined)) []

/-- A way to evaluate a tree of modules. -/
class Evaluating (M : Type → Type) where
  /-- Does something with the session. -/
  act {α : Type} : StateM Session α → M α
  /-- Runs the body of the module that is evaluated, a program in a scope. -/
  runScript : ObjectId → Program → Scope → ExceptT LoadError M Unit
  /-- Runs the body of the module that is evaluated, a builtin module. -/
  runBuiltin : Builtin → List String → ExceptT LoadError M (Dict Value)
  /-- Goes to the module with a number below the one that is evaluated, and evaluates it. -/
  below {α : Type} : Nat → M α → M α

/-- Modules are evaluated in the session. -/
instance : Evaluating (StateM Session) where
  act step := step
  runScript context p scope := Load.script (Run.runModule context p scope)
  runBuiltin := valuesOf
  below _ evaluation := evaluation

section

variable (M : Type → Type) [Monad M] [Evaluating M]

/-- Does a step of loading. -/
def loadIn {α : Type} (step : Load α) : ExceptT LoadError M α := ExceptT.mk (Evaluating.act step.run)

/-- Runs the body of a program to its end; the scope that it ran in. -/
def runToEndIn (m : Module) (p : Program) : ExceptT LoadError M Scope := do
  let scope ← loadIn M (m.importScope p)
  Evaluating.runScript m.context p scope
  return scope

/-- Runs a program; its exports. -/
def runProgramIn (m : Module) (p : Program) : ExceptT LoadError M (Dict Value) := do
  let scope ← m.runToEndIn M p
  let entries ← loadIn M (p.body.foldlM (m.collect scope) [])
  loadIn M (p.body.foldlM m.passOn entries)

/-- Runs what a module runs; its exports. -/
def runBodyIn (m : Module) : ExceptT LoadError M (Dict Value) :=
  match m.kind with
  | .source p => m.runProgramIn M p
  | .synthetic b names => Evaluating.runBuiltin b names

/-- Runs what a module runs; its exports as one value. -/
def runExportsIn (m : Module) : ExceptT LoadError M Namespace := do
  let entries ← m.runBodyIn M
  return ⟨← loadIn M (Load.script Run.identity), m.url.text, entries⟩

/-- Runs a module whose dependencies have been evaluated. -/
def finishIn (m : Module) : M (Module × Except LoadError Namespace) := do
  match ← (m.runExportsIn M).run with
  | .error e => return (m.fail, .error e)
  | .ok exports =>
    let _ ← (loadIn M (Load.log (.evaluated m.url exports.entries.length))).run
    return ((m.withExports exports).withState .evaluated, .ok exports)

mutual

/-- Evaluates a module and everything below it. -/
def evaluateIn : Module → M (Module × Except LoadError Namespace)
  | node url context kind state exports dependencies => do
    let m := node url context kind state exports dependencies
    if state ≠ .linked then return (m, .error (.state ⟨url, state, .evaluating⟩))
    let m := m.withState .evaluating
    match ← evaluateAllIn 0 dependencies with
    | (dependencies, .error e) => return ((m.withDependencies dependencies).fail, .error e)
    | (dependencies, .ok ()) => finishIn M (m.withDependencies dependencies)

/-- Evaluates modules up to the first one that fails; the first of them is number `i`. -/
def evaluateAllIn (i : Nat) : List (String × Module) → M (List (String × Module) × Except LoadError Unit)
  | [] => return ([], .ok ())
  | (specifier, m) :: rest => do
    match ← Evaluating.below i (evaluateIn m) with
    | (m, .error e) => return ((specifier, m) :: rest, .error e)
    | (m, .ok _) =>
      let (rest, result) ← evaluateAllIn (i + 1) rest
      return ((specifier, m) :: rest, result)

end

end

/-! ### In the session -/

/-- Runs the body of a program to its end; the scope that it ran in. -/
def runToEnd (m : Module) (p : Program) : Load Scope := m.runToEndIn (StateM Session) p

/-- Runs a program; its exports. -/
def runProgram (m : Module) (p : Program) : Load (Dict Value) := m.runProgramIn (StateM Session) p

/-- Runs what a module runs; its exports. -/
def runBody (m : Module) : Load (Dict Value) := m.runBodyIn (StateM Session)

/-- Runs what a module runs; its exports as one value. -/
def runExports (m : Module) : Load Namespace := m.runExportsIn (StateM Session)

/-- Runs a module whose dependencies have been evaluated. -/
def finish (m : Module) : StateM Session (Module × Except LoadError Namespace) := m.finishIn (StateM Session)

/-- Evaluates a module and everything below it. -/
def evaluate (m : Module) : StateM Session (Module × Except LoadError Namespace) := m.evaluateIn (StateM Session)

/-- Evaluates modules up to the first one that fails. -/
def evaluateAll (ms : List (String × Module)) : StateM Session (List (String × Module) × Except LoadError Unit) :=
  evaluateAllIn (StateM Session) 0 ms

end Module
end ScriptImport
