/-
# Builtin modules

A builtin module has a name, names of its exports, and their values, which are read when a module that
is built from it runs.  The registry holds the modules by their names.  A specifier names a builtin
module directly or behind the scheme `std:`.

| module | exports |
| --- | --- |
| `path` | `basename`, `dirname`, `extname`, `join`, `sep` |
| `os` | `EOL`, `arch`, `homedir`, `platform`, `tmpdir` |
| `process` | `cwd`, `env`, `pid`, `platform` |
| `crypto` | `sha256` |
-/

import ScriptImport.Script.Property

namespace ScriptImport

open Script

/-- A builtin module. -/
structure Builtin where
  name : String
  exportNames : Store → List String
  value? : String → Run (Option Value)

namespace Builtin

/-- The scheme of builtin modules. -/
def scheme : String := "std"

/-- A module whose exports are the properties of an object, as they are when they are read. -/
def ofObject (name : String) (o : ObjectId) : Builtin where
  name := name
  exportNames s := Dict.keys (s.object o)
  value? key := return Dict.get? ((← get).object o) key

/-- A module with fixed names of exports, whose values are made anew each time. -/
def ofExports (name : String) (exports : Dict (Run Value)) : Builtin where
  name := name
  exportNames _ := Dict.keys exports
  value? key := do
    match Dict.get? exports key with
    | some make => return some (← make)
    | none => return none

/-- An export that is a function. -/
def function (name : String) (operation : Operation) : String × Run Value :=
  (name, Run.newNative name operation)

/-- The module `path`. -/
def path : Builtin :=
  ofExports "path"
    [function "basename" (.path .basename), function "dirname" (.path .dirname),
      function "extname" (.path .extname), function "join" (.path .join),
      ("sep", return .string "/")]

/-- The module `os`. -/
def os : Builtin :=
  ofExports "os"
    [("EOL", return .string "\n"), function "arch" (.host .arch), function "homedir" (.host .home),
      function "platform" (.host .platform), function "tmpdir" (.host .temporary)]

/-- The module `process`. -/
def process : Builtin :=
  ofExports "process"
    [function "cwd" (.host .directory),
      ("env", do
        let environment := (← get).host.environment
        return .object (← Run.newObject (Dict.mapValues Value.string environment))),
      ("pid", return .number (Float.ofNat (← get).host.processId)),
      ("platform", return .string (← get).host.platform)]

/-- The module `crypto`. -/
def crypto : Builtin := ofExports "crypto" [function "sha256" .sha256]

end Builtin

/-- Builtin modules by their names. -/
structure Registry where
  modules : Dict Builtin

namespace Registry

/-- No modules. -/
def empty : Registry := ⟨[]⟩

/-- Adds a module, in place of the one that has its name. -/
def register (r : Registry) (m : Builtin) : Registry := ⟨Dict.insert r.modules m.name m⟩

/-- The modules that are always there. -/
def default : Registry :=
  [Builtin.path, Builtin.os, Builtin.process, Builtin.crypto].foldl register empty

/-- The module with a name. -/
def get? (r : Registry) (name : String) : Option Builtin := Dict.get? r.modules name

/-- Whether a name is the name of a module. -/
def contains (r : Registry) (name : String) : Bool := Dict.contains r.modules name

/-- The names of the modules, in their order. -/
def names (r : Registry) : List String := Dict.keys r.modules

/-- The name behind the scheme of builtin modules. -/
def moduleName? (specifier : String) : Option String :=
  (List.isPrefixOf? (Builtin.scheme ++ ":").toList specifier.toList).map String.ofList

/-- Whether a specifier has the scheme of builtin modules. -/
def isBuiltinSpecifier (specifier : String) : Bool := (moduleName? specifier).isSome

/-- The registry as a text for people. -/
def inspect (r : Registry) : String :=
  "BuiltinRegistry \x7b modules: " ++ Text.quoteAll r.names ++ " \x7d"

end Registry

end ScriptImport
