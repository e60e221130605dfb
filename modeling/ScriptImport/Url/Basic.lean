/-
# URLs

A URL has a scheme and a path, and perhaps a server in front of the path and a query and a fragment
behind it.  A path is a list of segments, or, in a URL that cannot be a base, one text.  The parts are
kept in their written form, with escapes where they need them, so that equal URLs have equal texts.
-/

import ScriptImport.Path

namespace ScriptImport

/-- The server of a URL: its host, the port unless it is the one of the scheme, and who asks. -/
structure Url.Server where
  user : String
  password : Option String
  host : String
  port : Option Nat
  deriving DecidableEq, Repr

/-- The path of a URL. -/
inductive Url.Path where
  /-- A text that no relative reference can change. -/
  | text (text : String)
  /-- Segments, a slash in front of each. -/
  | segments (segments : List String)
  deriving DecidableEq, Repr

/-- A URL. -/
structure Url where
  scheme : String
  server : Option Url.Server
  path : Url.Path
  query : Option String
  fragment : Option String
  deriving DecidableEq, Repr

namespace Url

/-- Why a text is no URL. -/
inductive Fault where
  | emptyHost
  | domainName
  | port
  | ipv4
  | ipv6
  | hostCharacter
  | noBase
  | fixedBase
  deriving DecidableEq, Repr

/-- The wording of a fault. -/
def Fault.message : Fault → String
  | .emptyHost => "empty host"
  | .domainName => "invalid international domain name"
  | .port => "invalid port number"
  | .ipv4 => "invalid IPv4 address"
  | .ipv6 => "invalid IPv6 address"
  | .hostCharacter => "invalid domain character"
  | .noBase => "relative URL without a base"
  | .fixedBase => "relative URL with a cannot-be-a-base base"

/-- The written form of a server. -/
def Server.text (s : Server) : String :=
  let password := (s.password.map (":" ++ ·)).getD ""
  let user := if s.user = "" ∧ s.password = none then "" else s.user ++ password ++ "@"
  user ++ s.host ++ (s.port.map fun n => ":" ++ toString n).getD ""

/-- The written form of a path. -/
def Path.toString : Path → String
  | .text t => t
  | .segments parts => String.join (parts.map ("/" ++ ·))

/-- What separates a path from the scheme in a URL without a server: a path that starts with two slashes
would be read as a server. -/
def Path.guard : Path → String
  | .segments ("" :: _ :: _) => "/."
  | _ => ""

/-- The written form of a URL. -/
def text (u : Url) : String :=
  let front := (u.server.map fun s => "//" ++ s.text).getD u.path.guard
  u.scheme ++ ":" ++ front ++ u.path.toString ++ (u.query.map ("?" ++ ·)).getD ""
    ++ (u.fragment.map ("#" ++ ·)).getD ""

instance : ToString Url := ⟨text⟩

/-- Whether relative references can start from a URL. -/
def canBeBase (u : Url) : Bool :=
  match u.path with
  | .text _ => false
  | .segments _ => true

end Url
end ScriptImport
