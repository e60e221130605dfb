/-
# Building modules

A module is built from what is at its URL: the program that a fetched source is, or a builtin module.
-/

import ScriptImport.Module.Load

namespace ScriptImport

/-- What modules are built with. -/
structure Builder where
  fetcher : Fetcher
  builtins : Registry

namespace Builder

/-- The name of the builtin module at a URL. -/
def builtinName (url : Url) : String := url.path.toString

/-- Builds the module of a builtin module. -/
def buildBuiltin (b : Builder) (url : Url) (context : Script.ObjectId) : Load Module := do
  match b.builtins.get? (builtinName url) with
  | none => throw (.unknownBuiltin (builtinName url))
  | some builtin =>
    let m := Module.ofBuiltin url builtin (← get).scripts context
    Load.log (.builtBuiltin url m.exportNames)
    return m

/-- Builds the module of a source. -/
def buildSource (b : Builder) (url : Url) (context : Script.ObjectId) : Load Module := do
  match ← Load.onWeb (b.fetcher.fetch url) with
  | .error e => throw (.fetch e)
  | .ok fetched =>
    match Syntax.parse fetched.body with
    | .error e => throw (.parse url e)
    | .ok p =>
      Load.log (.builtSource url p.body.length)
      return .ofProgram url p context

/-- Builds the module at a URL. -/
def build (b : Builder) (url : Url) (context : Script.ObjectId) : Load Module :=
  if url.scheme = "http" ∨ url.scheme = "https" ∨ url.scheme = "file" then
    b.buildSource url context
  else if url.scheme = Builtin.scheme then b.buildBuiltin url context
  else throw (.resolve (.scheme url))

end Builder
end ScriptImport
