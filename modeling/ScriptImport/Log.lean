/-
# The log

What happens while modules are fetched, built, linked and evaluated is logged as events.  A line of the
log is the level of an event, what happened, and its fields.
-/

import ScriptImport.Text.Quoted
import ScriptImport.Url.Basic

namespace ScriptImport

/-- Where a fetched text came from. -/
inductive Origin where
  | file
  | cache
  | network
  /-- The cache, after the server has confirmed it. -/
  | revalidated
  deriving DecidableEq, Repr

/-- The name of an origin. -/
def Origin.text : Origin → String
  | file => "file"
  | cache => "cache"
  | network => "network"
  | revalidated => "revalidated"

/-- What is logged. -/
inductive Event where
  | metadataUnreadable (url reason : String)
  | bodyUnreadable (url reason : String)
  | fetched (verbose : Bool) (url : Url) (origin : Origin) (status : Option Nat) (bytes : Nat)
  | networkFailed (url : Url) (reason : String)
  | storeFailed (url : Url) (reason : String)
  | confirmationUnusable (url : Url) (reason : String)
  | importing (specifier : String) (url : Url)
  | builtSource (url : Url) (statements : Nat)
  | builtBuiltin (url : Url) (exports : List String)
  | linking (importer : Url) (specifier : String) (url : Url)
  | evaluated (url : Url) (exports : Nat)
  | imported (verbose : Bool) (url : Url) (exports : Nat)

namespace Event

/-- The level of an event; a verbose importer raises some of them. -/
def level : Event → String
  | fetched true .. => "INFO"
  | imported true .. => "INFO"
  | storeFailed .. => "WARN"
  | _ => "DEBUG"

/-- What happened. -/
def message : Event → String
  | metadataUnreadable .. => "ignoring unreadable cache metadata"
  | bodyUnreadable .. => "cache body unreadable"
  | fetched .. => "fetched"
  | networkFailed .. => "network fetch failed"
  | storeFailed .. => "failed to write cache entry"
  | confirmationUnusable .. => "304 without a usable cache entry"
  | importing .. => "importing"
  | builtSource .. => "built source module"
  | builtBuiltin .. => "built builtin module"
  | linking .. => "linking import"
  | evaluated .. => "evaluated module"
  | imported .. => "imported"

/-- The fields of an event. -/
def fields : Event → List (String × String)
  | metadataUnreadable url reason => [("url", url), ("error", reason)]
  | bodyUnreadable url reason => [("url", url), ("error", reason)]
  | fetched _ url origin status bytes =>
    [("url", url.text), ("source", origin.text),
      ("status", (status.map fun n => "Some(" ++ toString n ++ ")").getD "None"),
      ("bytes", toString bytes)]
  | networkFailed url reason => [("url", url.text), ("reason", reason)]
  | storeFailed url reason => [("url", url.text), ("error", reason)]
  | confirmationUnusable url reason => [("url", url.text), ("error", reason)]
  | importing specifier url => [("specifier", specifier), ("url", url.text)]
  | builtSource url statements => [("url", url.text), ("statements", toString statements)]
  | builtBuiltin url exports => [("url", url.text), ("exports", Text.quoteAll exports)]
  | linking importer specifier url =>
    [("from", importer.text), ("specifier", specifier), ("url", url.text)]
  | evaluated url exports => [("url", url.text), ("exports", toString exports)]
  | imported _ url exports => [("url", url.text), ("exports", toString exports)]

/-- The line of an event. -/
def text (e : Event) : String :=
  e.level ++ " " ++ e.message ++ String.join (e.fields.map fun f => " " ++ f.1 ++ "=" ++ f.2)

end Event
end ScriptImport
