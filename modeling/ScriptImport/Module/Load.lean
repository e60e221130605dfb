/-
# Loading

Loading changes two things, the web that texts are fetched from and the store of the scripts that run,
and it may stop with an error.
-/

import ScriptImport.Config
import ScriptImport.Fetch.Fetcher
import ScriptImport.Module.Basic
import ScriptImport.Resolve
import ScriptImport.Script.Display
import ScriptImport.Syntax.Module

namespace ScriptImport

/-- Why a module cannot be loaded. -/
inductive LoadError where
  | fetch (error : FetchError)
  | resolve (error : ResolveError)
  | parse (url : Url) (error : Syntax.SourceError)
  | eval (error : Script.EvalError)
  | circular (chain : List Url)
  | missingExport (specifier name : String)
  | state (error : StateError)
  | unknownBuiltin (name : String)
  | config (error : ConfigError)
  /-- Modules are below one another beyond the depth that linking goes down to. -/
  | endless (url : Url)

/-- The message of an error; the store holds the values that it may show. -/
def LoadError.message (s : Script.Store) : LoadError → String
  | fetch e => e.message
  | resolve e => e.message
  | parse url e => "Failed to parse " ++ url.text ++ ": " ++ e.message
  | eval e => e.message s
  | circular chain => "Circular import: " ++ " -> ".intercalate (chain.map (·.text))
  | missingExport specifier name =>
    "The requested module '" ++ specifier ++ "' does not provide an export named '" ++ name ++ "'"
  | state e => e.message
  | unknownBuiltin name => "Unknown builtin module: " ++ name
  | config e => e.message?.getD ""
  | endless url => "Modules are imported below one another without end: " ++ url.text

/-- Whether a module cannot be loaded because of the scheme of its URL. -/
def LoadError.isUnsupportedScheme : LoadError → Bool
  | resolve (.scheme _) => true
  | _ => false

/-- What loading changes. -/
structure Session where
  web : Web
  scripts : Script.Store

/-- What loading does: it changes the session, and it gives a result or an error. -/
abbrev Load := ExceptT LoadError (StateM Session)

namespace Load

/-- Does something with the web. -/
def onWeb {α : Type} (act : StateM Web α) : Load α := do
  let s ← get
  let (a, web) := act.run s.web
  set { s with web := web }
  return a

/-- Logs an event. -/
def log (e : Event) : Load Unit := onWeb (Web.log e)

/-- Runs a script. -/
def script {α : Type} (act : Script.Run α) : Load α := do
  let s ← get
  match act.run.run s.scripts with
  | (.ok a, scripts) =>
    set { s with scripts := scripts }
    return a
  | (.error e, scripts) =>
    set { s with scripts := scripts }
    throw (.eval e)

/-- Stops if a module is not in the right state. -/
def ofState {α : Type} : Except StateError α → Load α
  | .ok a => return a
  | .error e => throw (.state e)

end Load
end ScriptImport
