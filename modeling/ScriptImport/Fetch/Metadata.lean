/-
# What is kept about a cached response

Beside the body of a response the cache keeps its URL, where the body is, its *validators* (the headers
`etag` and `last-modified`) and when it was fetched or confirmed.  A later request carries the validators,
so that the server can answer that nothing has changed.

`text` and `parse` are the JSON form of metadata; headers and time may be missing in what is read.
-/

import ScriptImport.Fetch.Http
import ScriptImport.Json.Record

namespace ScriptImport

/-- What is kept about a response. -/
structure Metadata where
  url : String
  /-- The path of the body. -/
  file : String
  headers : Dict String
  /-- Seconds since the start of 1970. -/
  cachedAt : Nat
  deriving DecidableEq, Repr

namespace Metadata

/-- The headers that are kept. -/
def validatorNames : List String := ["etag", "last-modified"]

/-- The validators among the headers of a response, with names in small letters. -/
def validators (headers : Dict String) : Dict String :=
  Dict.ofEntries ((headers.map fun h => (lowerAscii h.1, h.2)).filter (·.1 ∈ validatorNames))

/-- The metadata of a response. -/
def new (url file : String) (headers : Dict String) (now : Nat) : Metadata :=
  ⟨url, file, validators headers, now⟩

/-- The entity tag. -/
def etag? (m : Metadata) : Option String := Dict.get? m.headers "etag"

/-- The time of the last change. -/
def lastModified? (m : Metadata) : Option String := Dict.get? m.headers "last-modified"

/-- The headers of a request that asks whether something has changed. -/
def conditions (m : Metadata) : List (String × String) :=
  (m.etag?.map fun v => ("if-none-match", v)).toList
    ++ (m.lastModified?.map fun v => ("if-modified-since", v)).toList

/-- Metadata after a response that confirms it: the validators of the response go over the old ones. -/
def refreshed (m : Metadata) (headers : Dict String) (now : Nat) : Metadata :=
  { m with headers := Dict.insertAll m.headers (validators headers), cachedAt := now }

/-- The JSON form. -/
def text (m : Metadata) : String :=
  let quoted (s : String) : List Char := Json.quoted s.toList
  let field (name : String) (value : List Char) : List Char := quoted name ++ ':' :: value
  String.ofList <|
    '\x7b' :: field "url" (quoted m.url) ++ ',' :: field "file" (quoted m.file)
      ++ ',' :: field "headers" (Json.object (Dict.mapValues Json.string m.headers)).compact
      ++ ',' :: field "cached_at" (Json.integer m.cachedAt).compact ++ ['\x7d']

/-- The fields that have been read. -/
structure Partial where
  url : Option String
  file : Option String
  headers : Option (Dict String)
  cachedAt : Option Nat

/-- The fields, in their order. -/
def fields : List (Json.Field Partial) :=
  [⟨"url", true, (·.url.isSome), fun p => do
      return { p with url := some (← Json.Reader.text "a string") }⟩,
    ⟨"file", true, (·.file.isSome), fun p => do
      return { p with file := some (← Json.Reader.text "path string") }⟩,
    ⟨"headers", false, (·.headers.isSome), fun p => do
      return { p with headers := some (← Json.Reader.texts) }⟩,
    ⟨"cached_at", false, (·.cachedAt.isSome), fun p => do
      return { p with cachedAt := some (← Json.Reader.natural) }⟩]

/-- Reads the JSON form. -/
def parse (text : String) : Except Json.ReadError Metadata := do
  let p ← Json.Reader.whole (Json.Record.read "CacheMetadata" fields ⟨none, none, none, none⟩) text
  return ⟨p.url.getD "", p.file.getD "", p.headers.getD [], p.cachedAt.getD 0⟩

end Metadata
end ScriptImport
