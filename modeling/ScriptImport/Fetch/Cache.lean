/-
# The cache

The cache is a directory with two files for each entry: the body of a response, named by the SHA-256
digest of the URL in base 32, and its metadata, named so with `.json` behind.  An entry is there if its
metadata can be read and the body that they point to can be read; everything else is a miss.

A store is three changes to the files: make the directory, write the body, write the metadata.  It stops
at the first one that fails.
-/

import ScriptImport.Digest.Base32
import ScriptImport.Digest.Sha256
import ScriptImport.Fetch.Metadata
import ScriptImport.Files
import ScriptImport.Host
import ScriptImport.Log

namespace ScriptImport

/-- A cache in the directory `root`. -/
structure Cache where
  root : String

/-- What the cache has about a URL. -/
structure Cached where
  metadata : Metadata
  body : String

/-- Why the cache cannot do something. -/
inductive CacheError where
  | miss (url : String)
  | files (error : FileError)
  | metadataFile (error : FileError)
  | noHome
  deriving DecidableEq

/-- The message of an error. -/
def CacheError.message : CacheError → String
  | miss url => "URL not found in cache: " ++ url
  | files e => "IO error: " ++ e.message
  | metadataFile e => "Metadata error: IO error: " ++ e.message
  | noHome => "Failed to determine cache directory: Could not determine home directory"

/-- A change to files. -/
inductive Change where
  | makeDirectories (path : String)
  | write (path text : String)

/-- Carries out a change. -/
def Change.apply (f : Files) : Change → Except FileError Files
  | makeDirectories path => f.makeDirectories path
  | write path text => f.writeText path text

/-- Carries out changes up to the first one that fails; the files after that, how many changes were
carried out, and the error. -/
def Change.applyAll (f : Files) : List Change → Files × Nat × Option FileError
  | [] => (f, 0, none)
  | c :: cs =>
    match c.apply f with
    | .error e => (f, 0, some e)
    | .ok f =>
      let (f, n, e) := applyAll f cs
      (f, n + 1, e)

namespace Cache

/-- The name of the body of a URL. -/
def key (url : String) : String :=
  String.ofList (Digest.base32 (Digest.sha256 url.toUTF8.toList))

/-- The path of the body of a URL. -/
def bodyPath (c : Cache) (url : String) : String := Path.resolve c.root (key url)

/-- The path of the metadata of a URL. -/
def metadataPath (c : Cache) (url : String) : String := Path.resolve c.root (key url ++ ".json")

/-- The directory of the cache of a user. -/
def defaultRoot? (host : Host) : Except CacheError String :=
  match host.home with
  | some home => .ok (Path.resolve home ".cache/dynimport/fetch")
  | none => .error .noHome

/-- The metadata of a URL, if it can be read. -/
def metadata? (c : Cache) (f : Files) (url : String) : Option Metadata × List Event :=
  match f.readText (c.metadataPath url) with
  | .error .missing => (none, [])
  | .error e => (none, [.metadataUnreadable url ("IO error: " ++ e.message)])
  | .ok text =>
    match Metadata.parse text with
    | .ok m => (some m, [])
    | .error e => (none, [.metadataUnreadable url ("JSON error: " ++ e.message)])

/-- Looks up a URL. -/
def lookup (c : Cache) (f : Files) (url : String) : Except CacheError Cached × List Event :=
  match c.metadata? f url with
  | (none, notes) => (.error (.miss url), notes)
  | (some m, notes) =>
    match f.readText m.file with
    | .ok body => (.ok ⟨m, body⟩, notes)
    | .error e => (.error (.miss url), notes ++ [.bodyUnreadable url e.message])

/-- Whether a URL has an entry. -/
def contains (c : Cache) (f : Files) (url : String) : Bool := (c.lookup f url).1.isOk

/-- The metadata of a response that is stored now. -/
def newMetadata (c : Cache) (url : String) (headers : Dict String) (now : Nat) : Metadata :=
  .new url (c.bodyPath url) headers now

/-- The changes that store a response. -/
def storeChanges (c : Cache) (url body : String) (m : Metadata) : List Change :=
  [.makeDirectories c.root, .write (c.bodyPath url) body, .write (c.metadataPath url) m.text]

/-- Stores a response, in place of what the cache has about the URL. -/
def store (c : Cache) (f : Files) (url body : String) (headers : Dict String) (now : Nat) :
    Except CacheError Metadata × Files :=
  let m := c.newMetadata url headers now
  match Change.applyAll f (c.storeChanges url body m) with
  | (f, _, none) => (.ok m, f)
  | (f, done, some e) => (.error (if done < 2 then .files e else .metadataFile e), f)

/-- Notes that a server has confirmed an entry. -/
def touch (c : Cache) (f : Files) (url : String) (headers : Dict String) (now : Nat) :
    Except CacheError Cached × Files × List Event :=
  match c.lookup f url with
  | (.error e, notes) => (.error e, f, notes)
  | (.ok cached, notes) =>
    let m := cached.metadata.refreshed headers now
    match f.writeText (c.metadataPath url) m.text with
    | .ok f => (.ok ⟨m, cached.body⟩, f, notes)
    | .error e => (.error (.metadataFile e), f, notes)

/-- Removes the files at some paths, as far as they are there. -/
def removeAll (f : Files) : List String → Except CacheError Unit × Files
  | [] => (.ok (), f)
  | path :: paths =>
    if f.contains path then
      match f.remove path with
      | .ok f => removeAll f paths
      | .error e => (.error (.files e), f)
    else removeAll f paths

/-- Removes the entry of a URL. -/
def remove (c : Cache) (f : Files) (url : String) : Except CacheError Unit × Files :=
  removeAll f [c.bodyPath url, c.metadataPath url]

/-- Removes all files of the cache. -/
def clear (c : Cache) (f : Files) : Except CacheError Unit × Files :=
  if f.contains c.root then
    match f.names c.root with
    | .error e => (.error (.files e), f)
    | .ok names =>
      removeAll f ((names.map fun n => Path.resolve c.root n).filter fun p => f.isFile p)
  else (.ok (), f)

end Cache
end ScriptImport
