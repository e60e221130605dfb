/-
# Linking

To link a module is to resolve the specifiers that it requests, in their order, to build the module of
each and to link that in turn.  A module that is being linked, or one above it, is not imported again:
that is a circle, and nothing else is, so a module that is reached on two ways is built twice.

When a module cannot be linked it has failed and has nothing below it.
-/

import ScriptImport.Module.Build

namespace ScriptImport

/-- What modules are linked with. -/
structure Linker where
  resolver : Resolver
  builder : Builder
  /-- How many modules may be below one another. -/
  depth : Nat := 1000000

namespace Linker

/-- Builds and links the module for one specifier of the module `m`, given how modules are linked below
the URLs `above`. -/
def dependency (l : Linker) (link : Module → Load Module) (m : Module) (above : List Url)
    (specifier : String) : Load Module := do
  match l.resolver.resolve specifier (some m.url) with
  | .error e => throw (.resolve e)
  | .ok url =>
    if url ∈ above then throw (.circular (above ++ [url]))
    Load.log (.linking m.url specifier url)
    link (← l.builder.build url m.context)

/-- Links the module `m` below the URLs `above`, which go down from the root; at most `depth` modules are
linked below one another. -/
def linkBelow (l : Linker) : (depth : Nat) → (above : List Url) → Module → Load Module
  | 0, _, m => throw (.endless m.url)
  | depth + 1, above, m => do
    let m ← Load.ofState (m.transition .linking)
    let above := above ++ [m.url]
    let dependencies ← m.requests.mapM fun specifier => do
      return (specifier, ← l.dependency (l.linkBelow depth above) m above specifier)
    Load.ofState ((m.withDependencies dependencies).transition .linked)

/-- Links a module and everything below it.  If that is not possible the module has failed, unless it was
not one to be linked in the first place. -/
def link (l : Linker) (m : Module) : StateM Session (Module × Except LoadError Unit) := do
  match m.transition .linking with
  | .error e => return (m, .error (.state e))
  | .ok linking =>
    match ← (l.linkBelow l.depth [] m).run with
    | .ok linked => return (linked, .ok ())
    | .error e => return (linking.fail, .error e)

end Linker
end ScriptImport
