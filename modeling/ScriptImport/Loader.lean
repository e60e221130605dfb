/-
# Importing modules

An import resolves a specifier, builds the module, links it, and evaluates it, in a context of its own:
from one import to the next nothing stays but the cache.
-/

import ScriptImport.Module.Evaluate
import ScriptImport.Module.Link
import ScriptImport.Script.Global

namespace ScriptImport

/-- What modules are imported with. -/
structure Loader where
  config : Config
  cache : Cache
  transport : Transport
  builtins : Registry

namespace Loader

/-- The resolver of an import. -/
def resolver (l : Loader) (root : Url) : Resolver := ⟨l.config.baseUrl, l.config.imports, l.builtins, root⟩

/-- The fetcher of an import. -/
def fetcher (l : Loader) : Fetcher := ⟨l.cache, l.transport, l.config.verbose⟩

/-- Gives the module in the session to a step that changes it. -/
def step {α : Type} (act : StateM Session (Module × Except LoadError α)) : Load (Module × α) := do
  match ← (act : StateM Session _) with
  | (_, .error e) => throw e
  | (m, .ok a) => return (m, a)

/-- Imports a module: its exports. -/
def load (l : Loader) (specifier : String) : Load (Url × Script.Namespace) := do
  match l.config.root (← get).scripts.host with
  | .error e => throw (.config e)
  | .ok root =>
    match (l.resolver root).resolve specifier none with
    | .error e => throw (.resolve e)
    | .ok url =>
      Load.log (.importing specifier url)
      let builder : Builder := ⟨l.fetcher, l.builtins⟩
      let context ← Load.script Script.Run.newContext
      let m ← builder.build url context
      let (m, _) ← step (Linker.link { resolver := l.resolver root, builder } m)
      let (_, exports) ← step m.evaluate
      Load.log (.imported l.config.verbose url exports.entries.length)
      return (url, exports)

/-- The settings as a text for people. -/
def inspectConfig (c : Config) : String :=
  let option (s : Option String) : String :=
    (s.map fun s => "Some(" ++ Text.quote s ++ ")").getD "None"
  let imports := c.imports.map fun (k, v) => Text.quote k ++ ": " ++ Text.quote v
  "LoaderConfig \x7b base_url: " ++ Text.quote c.baseUrl
    ++ ", import_map: ImportMap \x7b imports: \x7b" ++ ", ".intercalate imports ++ "\x7d \x7d"
    ++ ", import_map_path: " ++ option c.importMapPath
    ++ ", verbose: " ++ (if c.verbose then "true" else "false")
    ++ ", cache_dir: " ++ option c.cacheDir ++ ", root_url: " ++ option c.rootUrl ++ " \x7d"

/-- A loader as a text for people. -/
def inspect (l : Loader) : String :=
  "Loader \x7b config: " ++ inspectConfig l.config
    ++ ", fetcher: Fetcher \x7b cache: Cache \x7b root: " ++ Text.quote l.cache.root
    ++ " \x7d, verbose: false, .. \x7d, builtins: " ++ l.builtins.inspect ++ " \x7d"

end Loader
end ScriptImport
