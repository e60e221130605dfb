/-
# Modules

A module is what a URL was built into: a program, or a builtin module.  Linked modules have the modules
that they import below them, one for each specifier, so that a module that is imported twice is there
twice.  All modules of a tree share one context.
-/

import ScriptImport.Builtin.Registry
import ScriptImport.Module.State
import ScriptImport.Url.Basic

namespace ScriptImport

/-- What a module runs. -/
inductive ModuleKind where
  | source (program : Syntax.Program)
  /-- A builtin module and the names that it exported when it was built. -/
  | synthetic (builtin : Builtin) (exportNames : List String)

/-- The kind as a text for people. -/
def ModuleKind.inspect : ModuleKind → String
  | source p => "Source \x7b statements: " ++ toString p.body.length ++ " \x7d"
  | synthetic _ names => "Synthetic \x7b export_names: " ++ Text.quoteAll names ++ " \x7d"

/-- A module with the modules below it. -/
inductive Module where
  | node (url : Url) (context : Script.ObjectId) (kind : ModuleKind) (state : ModuleState)
      (exports : Option Script.Namespace) (dependencies : List (String × Module))

namespace Module

/-- Where a module comes from. -/
def url : Module → Url
  | node url .. => url

/-- The global object of a module. -/
def context : Module → Script.ObjectId
  | node _ context .. => context

/-- What a module runs. -/
def kind : Module → ModuleKind
  | node _ _ kind .. => kind

/-- How far a module has come. -/
def state : Module → ModuleState
  | node _ _ _ state .. => state

/-- The exports of a module that was evaluated. -/
def exports : Module → Option Script.Namespace
  | node _ _ _ _ exports _ => exports

/-- The modules below a module, by specifiers. -/
def dependencies : Module → List (String × Module)
  | node _ _ _ _ _ dependencies => dependencies

/-- A module that is not linked yet. -/
def new (url : Url) (kind : ModuleKind) (context : Script.ObjectId) : Module :=
  node url context kind .unlinked none []

/-- A module of a program. -/
def ofProgram (url : Url) (p : Syntax.Program) (context : Script.ObjectId) : Module :=
  new url (.source p) context

/-- A module of a builtin module. -/
def ofBuiltin (url : Url) (b : Builtin) (s : Script.Store) (context : Script.ObjectId) : Module :=
  new url (.synthetic b (b.exportNames s)) context

/-- A module in another state. -/
def withState (state : ModuleState) : Module → Module
  | node url context kind _ exports dependencies =>
    node url context kind state exports dependencies

/-- A module with other modules below it. -/
def withDependencies (dependencies : List (String × Module)) : Module → Module
  | node url context kind state exports _ => node url context kind state exports dependencies

/-- A module with exports. -/
def withExports (exports : Script.Namespace) : Module → Module
  | node url context kind state _ dependencies =>
    node url context kind state (some exports) dependencies

/-- Whether a module is made from a builtin module. -/
def isSynthetic (m : Module) : Bool :=
  match m.kind with
  | .source _ => false
  | .synthetic .. => true

/-- The names that a module is known to export before it runs. -/
def exportNames (m : Module) : List String :=
  match m.kind with
  | .source p => p.declared
  | .synthetic _ names => names

/-- The specifiers that a module imports from, each of them once. -/
def requests (m : Module) : List String :=
  match m.kind with
  | .source p => p.requests
  | .synthetic .. => []

/-- The module below a module for a specifier. -/
def dependency? (m : Module) (specifier : String) : Option Module :=
  m.dependencies.lookup specifier

end Module

/-- A module that is not in the right state. -/
structure StateError where
  url : Url
  state : ModuleState
  target : ModuleState
  deriving DecidableEq

/-- The message of an error. -/
def StateError.message (e : StateError) : String :=
  "Module " ++ e.url.text ++ " is " ++ e.state.text ++ ", cannot become " ++ e.target.text

namespace Module

/-- The module in the state `next`, if it may go there. -/
def transition (m : Module) (next : ModuleState) : Except StateError Module :=
  if m.state.canBecome next then .ok (m.withState next) else .error ⟨m.url, m.state, next⟩

/-- The module as failed, unless it cannot change any more. -/
def fail (m : Module) : Module := if m.state.isTerminal then m else m.withState .failed

end Module
end ScriptImport
