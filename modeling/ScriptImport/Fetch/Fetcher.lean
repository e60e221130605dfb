/-
# Fetching

A URL of scheme `file` is read from the files.  For `http` and `https` the cache and the network race:
a cached text is the result at once, and the request to the network, which is already under way, goes on
behind it and brings the entry up to date; without a cached text the result is the answer to the request.

| answer | cache | result |
| --- | --- | --- |
| success | the body replaces the entry | the body |
| nothing has changed, and there is an entry | takes over the new validators | the body of the entry |
| anything else | stays as it is | an error |

Requests under way wait in a queue until something has to be waited for.
-/

import ScriptImport.Fetch.Cache
import ScriptImport.Url.Local

namespace ScriptImport

/-- Sends a request: the response, or why there is none. -/
abbrev Transport := Request → Except String Response

/-- What fetching reads and changes. -/
structure Web where
  files : Files
  /-- Requests that are under way, the oldest one first. -/
  pending : List Url
  /-- The requests that were sent. -/
  requests : List Request
  events : List Event
  /-- Seconds since the start of 1970. -/
  now : Nat

/-- Why nothing could be fetched. -/
inductive FetchFault where
  | notCached
  | notLocal
  | file (error : FileError)
  | scheme (scheme : String)
  | transport (reason : String)
  | status (status : Nat) (reason : String)
  deriving DecidableEq

/-- The wording of a fault. -/
def FetchFault.text : FetchFault → String
  | notCached => "not cached"
  | notLocal => "not a local file path"
  | file e => e.message
  | scheme s => "unsupported URL scheme: " ++ s ++ ":"
  | transport reason => reason
  | status n reason => if reason = "" then "HTTP " ++ toString n else reason

/-- A URL that could not be fetched. -/
structure FetchError where
  url : Url
  fault : FetchFault
  deriving DecidableEq

/-- The message of an error. -/
def FetchError.message (e : FetchError) : String :=
  "Error fetching " ++ e.url.text ++ ": " ++ e.fault.text

/-- A fetched text. -/
structure Fetched where
  url : Url
  origin : Origin
  status : Option Nat
  body : String

/-- How texts are fetched. -/
structure Fetcher where
  cache : Cache
  transport : Transport
  verbose : Bool

namespace Web

/-- Logs an event. -/
def log (e : Event) : StateM Web Unit := modify fun w => { w with events := w.events ++ [e] }

/-- Logs events. -/
def logAll (es : List Event) : StateM Web Unit :=
  modify fun w => { w with events := w.events ++ es }

end Web

namespace Fetcher

open Web

/-- Looks up a URL in the cache. -/
def lookup (x : Fetcher) (url : Url) : StateM Web (Except CacheError Cached) := do
  let (found, notes) := x.cache.lookup (← get).files url.text
  logAll notes
  return found

/-- Takes in the answer to a request. -/
def receive (x : Fetcher) (url : Url) (r : Response) : StateM Web (Except FetchError Fetched) := do
  if r.isSuccess then
    let w ← get
    let (stored, files) := x.cache.store w.files url.text r.body r.headers w.now
    set { w with files := files }
    if let .error e := stored then log (.storeFailed url e.message)
    return .ok ⟨url, .network, some r.status, r.body⟩
  if r.isUnchanged then
    let w ← get
    let (touched, files, notes) := x.cache.touch w.files url.text r.headers w.now
    set { w with files := files }
    logAll notes
    match touched with
    | .ok cached => return .ok ⟨url, .revalidated, some r.status, cached.body⟩
    | .error e => log (.confirmationUnusable url e.message)
  return .error ⟨url, .status r.status r.reason⟩

/-- Sends a request, with the validators of the entry if there are any, and takes in the answer. -/
def revalidate (x : Fetcher) (url : Url) : StateM Web (Except FetchError Fetched) := do
  let (metadata, notes) := x.cache.metadata? (← get).files url.text
  logAll notes
  let request : Request := ⟨url, (metadata.map (·.conditions)).getD []⟩
  modify fun w => { w with requests := w.requests ++ [request] }
  match x.transport request with
  | .error reason => return .error ⟨url, .transport reason⟩
  | .ok r => x.receive url r

/-- Goes on with a request that is under way; a failure is logged. -/
def refresh (x : Fetcher) (url : Url) : StateM Web (Except FetchError Fetched) := do
  let result ← x.revalidate url
  if let .error e := result then log (.networkFailed e.url e.fault.text)
  return result

/-- Goes on with all requests that are under way, until they are done. -/
def settle (x : Fetcher) : StateM Web Unit := do
  let urls := (← get).pending
  modify fun w => { w with pending := [] }
  urls.forM fun url => do
    let _ ← x.refresh url

/-- The text at a URL, before it is logged. -/
def obtain (x : Fetcher) (url : Url) : StateM Web (Except FetchError Fetched) := do
  if url.scheme = "file" then
    match url.localPath? with
    | none => return .error ⟨url, .notLocal⟩
    | some path =>
      x.settle
      match (← get).files.readTextOfBytes path with
      | .ok body => return .ok ⟨url, .file, none, body⟩
      | .error e => return .error ⟨url, .file e⟩
  else if url.scheme = "http" ∨ url.scheme = "https" then
    match ← x.lookup url with
    | .ok cached =>
      modify fun w => { w with pending := w.pending ++ [url] }
      return .ok ⟨url, .cache, none, cached.body⟩
    | .error _ =>
      x.settle
      x.refresh url
  else return .error ⟨url, .scheme url.scheme⟩

/-- Fetches what is at a URL. -/
def fetch (x : Fetcher) (url : Url) : StateM Web (Except FetchError Fetched) := do
  let result ← x.obtain url
  if let .ok r := result then
    log (.fetched x.verbose r.url r.origin r.status r.body.utf8ByteSize)
  return result

end Fetcher
end ScriptImport
