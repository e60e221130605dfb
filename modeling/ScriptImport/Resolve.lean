/-
# Resolving specifiers

A specifier names a module in one of four ways, tried in this order.

| specifier | URL |
| --- | --- |
| a builtin module, alone or behind `std:` | `std:` and its name |
| a location: it starts with `/`, `.` or a scheme | itself, relative to the module that imports it |
| a name in the import map | the location it maps to, or the base, itself, `@` and the version it maps to |
| any other name | behind the base at top level, and relative to the module that imports it inside of one |

What comes out must have a scheme that modules can be loaded from.
-/

import ScriptImport.Builtin.Registry
import ScriptImport.Url.Read

namespace ScriptImport

/-- Where names lead: to locations, or to versions. -/
abbrev ImportMap := Dict String

/-- What specifiers are resolved against. -/
structure Resolver where
  /-- What is put in front of names. -/
  base : String
  imports : ImportMap
  builtins : Registry
  /-- The importing module of what is imported at top level. -/
  root : Url

/-- Why a specifier names no module. -/
inductive ResolveError where
  | scheme (url : Url)
  | empty
  | url (specifier : String) (fault : Url.Fault)
  | reference (specifier : String) (referrer : Url) (fault : Url.Fault)
  deriving DecidableEq

/-- The message of an error. -/
def ResolveError.message : ResolveError → String
  | scheme u => "Unsupported URL scheme '" ++ u.scheme ++ "' in " ++ u.text
  | empty => "Invalid module specifier '': empty specifier"
  | url specifier fault => "Invalid module specifier '" ++ specifier ++ "': " ++ fault.message
  | reference specifier referrer fault =>
    "Invalid module specifier '" ++ specifier ++ "': " ++ fault.message ++ " (relative to "
      ++ referrer.text ++ ")"

/-- Whether a text starts with a scheme. -/
def hasScheme (s : String) : Bool := (Url.cutScheme s.toList).isSome

/-- Whether a specifier names a location rather than a package. -/
def isLocation (specifier : String) : Bool :=
  specifier.toList.head? = some '/' || specifier.toList.head? = some '.' || hasScheme specifier

namespace Resolver

/-- The schemes that modules are loaded from. -/
def schemes : List String := ["http", "https", "file", Builtin.scheme]

/-- The URL that a text is; `specifier` is what an error names. -/
def parse (specifier text : String) : Except ResolveError Url :=
  (Url.parse text).mapError (.url specifier)

/-- The URL that a reference in the module at `referrer` names. -/
def join (referrer : Url) (reference : String) : Except ResolveError Url :=
  (referrer.join reference).mapError (.reference reference referrer)

/-- The URL of a location. -/
def locate (r : Resolver) (location : String) (referrer : Option Url) : Except ResolveError Url :=
  if hasScheme location then parse location location
  else join (referrer.getD r.root) location

/-- The name of the builtin module that a specifier names. -/
def builtinName? (r : Resolver) (specifier : String) : Option String :=
  match Registry.moduleName? specifier with
  | some name => some name
  | none => if r.builtins.contains specifier then some specifier else none

/-- The URL that a specifier leads to, whatever its scheme. -/
def target (r : Resolver) (specifier : String) (referrer : Option Url) : Except ResolveError Url :=
  match r.builtinName? specifier with
  | some name => parse specifier (Builtin.scheme ++ ":" ++ name)
  | none =>
    if isLocation specifier then r.locate specifier referrer
    else
      match Dict.get? r.imports specifier, referrer with
      | some mapped, _ =>
        if isLocation mapped then r.locate mapped referrer
        else parse specifier (r.base ++ specifier ++ "@" ++ mapped)
      | none, none => parse specifier (r.base ++ specifier)
      | none, some referrer => join referrer specifier

/-- The URL of the module that a specifier names in the module at `referrer`, or at top level. -/
def resolve (r : Resolver) (specifier : String) (referrer : Option Url) :
    Except ResolveError Url := do
  if specifier = "" then throw .empty
  let url ← r.target specifier referrer
  if url.scheme ∈ schemes then return url else throw (.scheme url)

end Resolver
end ScriptImport
