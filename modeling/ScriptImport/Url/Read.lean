/-
# Reading URLs

A reference is a URL of its own if it starts with a scheme, and is relative to a base otherwise.  Blanks
and control characters at its ends and line breaks and tabs anywhere do not count.

The *special* schemes `http`, `https`, `ws`, `wss`, `ftp` and `file` read a backslash as a slash.  All of
them but `file` always have a server with a host, whatever the number of slashes in front of it.  A URL
of another scheme has a server only after two slashes, and without any slash its path is a plain text.

Segments `.` and `..` are carried out at once; a drive letter such as `c:` is not climbed over.  A line
break or tab right behind a drive letter that starts the path of a file counts after all: it ends the
segment, and what follows it up to the next slash is a segment as it stands.
-/

import ScriptImport.Url.Address
import ScriptImport.Url.Basic
import ScriptImport.Url.Domain
import ScriptImport.Url.Percent

namespace ScriptImport
namespace Url

/-- What a scheme means for the parts behind it. -/
inductive SchemeKind where
  | file
  | special (port : Nat)
  | other
  deriving DecidableEq

/-- The kind of a scheme. -/
def SchemeKind.of (scheme : String) : SchemeKind :=
  if scheme = "file" then .file
  else if scheme = "http" ∨ scheme = "ws" then .special 80
  else if scheme = "https" ∨ scheme = "wss" then .special 443
  else if scheme = "ftp" then .special 21
  else .other

/-- Whether a kind of scheme is special. -/
def SchemeKind.isSpecial (k : SchemeKind) : Bool := k ≠ .other

/-- Whether a character separates segments. -/
def isSlash (special : Bool) (c : Char) : Bool := c = '/' || (special && c = '\\')

/-- A reference without the blanks and control characters at its ends. -/
def trim (cs : List Char) : List Char :=
  let atEnd (c : Char) : Bool := c ≤ ' '
  ((cs.dropWhile atEnd).reverse.dropWhile atEnd).reverse

/-- Whether a character is a line break or tab, which does not count. -/
def isBreak (c : Char) : Bool := c = '\t' || c = '\n' || c = '\r'

/-- The characters of a text that count. -/
def plain (cs : List Char) : List Char := cs.filter (! isBreak ·)

/-- A text without the first `n` characters that count. -/
def dropPlain : (n : Nat) → List Char → List Char
  | 0, cs => cs
  | _, [] => []
  | n + 1, c :: cs => dropPlain (if isBreak c then n + 1 else n) cs

/-- Whether a character can stand in a scheme. -/
def isSchemeChar (c : Char) : Bool := c.isAlphanum || c ∈ ['+', '-', '.']

/-- The scheme at the start of a text, with a colon behind it. -/
def cutScheme (cs : List Char) : Option (List Char) :=
  match cs.head?, cs.dropWhile isSchemeChar with
  | some c, ':' :: _ => if c.isAlpha then some (cs.takeWhile isSchemeChar) else none
  | _, _ => none

/-! ## Query and fragment -/

/-- A reference cut before its query and fragment. -/
structure Parts where
  /-- What is in front of them, with its line breaks and tabs. -/
  raw : List Char
  query : Option (List Char)
  fragment : Option (List Char)

namespace Parts

/-- What is in front of the query and the fragment. -/
def front (p : Parts) : List Char := plain p.raw

/-- Cuts a reference. -/
def of (cs : List Char) : Parts :=
  let raw := cs.takeWhile fun c => c ≠ '?' && c ≠ '#'
  match plain (cs.dropWhile fun c => c ≠ '?' && c ≠ '#') with
  | '?' :: rest =>
    let query := rest.takeWhile (· ≠ '#')
    match rest.dropWhile (· ≠ '#') with
    | _ :: fragment => ⟨raw, some query, some fragment⟩
    | [] => ⟨raw, some query, none⟩
  | _ :: fragment => ⟨raw, none, some fragment⟩
  | [] => ⟨raw, none, none⟩

end Parts

/-- The written form of a fragment. -/
def writtenFragment (cs : List Char) : String := String.ofList (escape escapedInFragment cs)

/-- The URL with a scheme, a server and a path, and with the query and fragment of a reference. -/
def Parts.url (p : Parts) (scheme : String) (server : Option Server) (path : Path) : Url where
  scheme := scheme
  server := server
  path := path
  query := p.query.map fun q =>
    String.ofList (escape (escapedInQuery (SchemeKind.of scheme).isSpecial) q)
  fragment := p.fragment.map writtenFragment

/-! ## Segments -/

/-- The written form of a drive letter, a letter and a colon; a bar may stand for the colon. -/
def driveForm? (s : List Char) : Option (List Char) :=
  match s with
  | [c, d] => if c.isAlpha && (d = ':' || d = '|') then some [c, ':'] else none
  | _ => none

/-- Whether a segment is a drive letter in its written form. -/
def isDrive (s : String) : Bool := driveForm? s.toList = some s.toList

/-- A segment without the escapes of its points. -/
def plainPoints : List Char → List Char
  | '%' :: '2' :: 'e' :: cs => '.' :: plainPoints cs
  | '%' :: '2' :: 'E' :: cs => '.' :: plainPoints cs
  | c :: cs => c :: plainPoints cs
  | [] => []

/-- The segments, last one first, after a step up.  What looks like a drive letter, up to a backslash, is
not left, whatever the scheme. -/
def stepUp (done : List String) : List String :=
  match done with
  | [] => []
  | last :: before =>
    if (driveForm? (last.toList.take 2)).isSome ∧ (last.toList.drop 2).head?.all (· = '\\') then done
    else before

/-- The written form of a segment behind the segments `done`.  In front of a file's path a drive letter
gets its colon. -/
def segment (file : Bool) (done : List String) (part : List Char) : String :=
  match driveForm? part with
  | some drive =>
    String.ofList (if file ∧ done = [] then drive else part)
  | none => String.ofList (escape escapedInPath part)

/-- The drive letter of a part of a path and what is behind it, if a line break or tab separates them. -/
def brokenDrive? (part : List Char) : Option (List Char × List Char) :=
  match plain part with
  | c :: ':' :: d :: rest =>
    if c.isAlpha && (dropPlain 2 part).head?.any isBreak then some ([c, ':'], d :: rest) else none
  | _ => none

/-- The segments, last one first, behind a part of a path that follows the segments `done`; `isLast` says
that no slash is behind the part. -/
def enter (file isLast : Bool) (done : List String) (part : List Char) : List String :=
  match if file ∧ done = [] then brokenDrive? part else none with
  | some (drive, rest) => [String.ofList (escape escapedInPath rest), String.ofList drive]
  | none =>
    let part := plain part
    let ends (done : List String) : List String := if isLast then "" :: done else done
    if plainPoints part = ['.', '.'] then ends (stepUp done)
    else if plainPoints part = ['.'] then ends done
    else segment file done part :: done

/-- Goes on from the segments `done` (the last one first) through the texts between slashes. -/
def walk (file : Bool) (done : List String) : List (List Char) → List String
  | [] => done.reverse
  | [last] => (enter file true done last).reverse
  | part :: parts => walk file (enter file false done part) parts

/-- The texts between the slashes of a path. -/
def splitPath (kind : SchemeKind) (cs : List Char) : List (List Char) :=
  Path.splitAt '/' (cs.map fun c => if isSlash kind.isSpecial c then '/' else c)

/-- The segments that a path leads to from the segments `start`. -/
def follow (kind : SchemeKind) (start : List String) (cs : List Char) : List String :=
  walk (kind = .file) start.reverse (splitPath kind cs)

/-- The path behind a server. -/
def rootPath (kind : SchemeKind) (cs : List Char) : Path :=
  match cs with
  | [] => .segments (if kind.isSpecial then [""] else [])
  | c :: rest => .segments (follow kind [] (if isSlash kind.isSpecial c then rest else cs))

/-- The path of a file without the empty segments in front. -/
def filePath (segments : List String) : Path :=
  match segments.dropWhile (· = "") with
  | [] => .segments [""]
  | parts => .segments parts

/-! ## Servers -/

/-- Reads a host. -/
def readHost (special : Bool) (cs : List Char) : Except Fault String :=
  match cs with
  | '[' :: inner =>
    if inner.getLast? = some ']' then
      match IPv6.read? inner.dropLast with
      | some groups => .ok (String.ofList ('[' :: IPv6.text groups ++ [']']))
      | none => .error .ipv6
    else .error .ipv6
  | _ =>
    if special then
      match (String.fromUTF8? ⟨(unescape cs).toArray⟩).bind (Domain.read? ·.toList) with
      | none => .error .domainName
      | some [] => .error .emptyHost
      | some name =>
        if IPv4.isNumeric name then
          match IPv4.read? name with
          | some address => .ok (String.ofList (IPv4.text address))
          | none => .error .ipv4
        else .ok (String.ofList name)
    else if cs.any fun c => c ∈ ['\x00', ' ', '<', '>', '@', '[', '\\', ']', '^', '|', ':'] then
      .error .hostCharacter
    else .ok (String.ofList (escape escapedAlways cs))

/-- A text cut before the first colon that is not in brackets. -/
def cutPort (inBrackets : Bool) : List Char → List Char × Option (List Char)
  | [] => ([], none)
  | c :: cs =>
    if c = ':' ∧ ¬inBrackets then ([], some cs)
    else
      let (host, port) := cutPort (if c = '[' then true else if c = ']' then false else inBrackets) cs
      (c :: host, port)

/-- Reads a port: digits, or nothing for the port of the scheme. -/
def readPort (kind : SchemeKind) (cs : List Char) : Except Fault (Option Nat) :=
  if cs.all Char.isDigit then
    match cs, digits? 10 cs with
    | _ :: _, some n =>
      if 65535 < n then .error .port
      else if kind = .special n then .ok none
      else .ok (some n)
    | _, _ => .ok none
  else .error .port

/-- The user and the password in front of the last `@` of a server, and what follows. -/
def cutUser (cs : List Char) : Option (List Char) × List Char :=
  let host := (cs.reverse.takeWhile (· ≠ '@')).reverse
  if host.length = cs.length then (none, cs)
  else (some (cs.take (cs.length - host.length - 1)), host)

/-- Reads a server; `followed` says whether the reference goes on behind it. -/
def readServer (kind : SchemeKind) (cs : List Char) (followed : Bool) : Except Fault Server := do
  let (asking, rest) := cutUser cs
  if asking = some [] ∧ rest = [] ∧ followed then throw .emptyHost
  let asking := asking.getD []
  let written (cs : List Char) : String := String.ofList (escape escapedInUser cs)
  let user := written (asking.takeWhile (· ≠ ':'))
  let password := match asking.dropWhile (· ≠ ':') with
    | _ :: c :: cs => some (written (c :: cs))
    | _ => none
  let (host, port) := cutPort false rest
  if host = [] ∧ (kind.isSpecial ∨ port.isSome ∨ user ≠ "" ∨ password.isSome) then throw .emptyHost
  let host ← if host = [] then pure "" else readHost kind.isSpecial host
  let port ← readPort kind (port.getD [])
  return { user, password, host, port }

/-- A reference after two slashes, cut before its path.  A backslash that does not count as a slash ends
a port, too. -/
def cutServer (kind : SchemeKind) (cs : List Char) : List Char × List Char :=
  let server := cs.takeWhile (! isSlash kind.isSpecial ·)
  let path := cs.dropWhile (! isSlash kind.isSpecial ·)
  let (_, host) := cutUser server
  match cutPort false host with
  | (_, some port) =>
    let path' := port.dropWhile (· ≠ '\\')
    (server.take (server.length - path'.length), path' ++ path)
  | (_, none) => (server, path)

/-- The URL of a reference whose server starts the text. -/
def withServer (scheme : String) (p : Parts) (cs : List Char) : Except Fault Url := do
  let kind := SchemeKind.of scheme
  let (server, path) := cutServer kind cs
  let followed := path ≠ [] ∨ p.query.isSome ∨ p.fragment.isSome
  return p.url scheme (some (← readServer kind server followed)) (rootPath kind path)

/-! ## References -/

/-- A server without a name, as files have it. -/
def Server.none : Server := ⟨"", Option.none, "", Option.none⟩

/-- The segments of a URL, if it has any. -/
def segments (u : Url) : List String :=
  match u.path with
  | .text _ => []
  | .segments parts => parts

/-- The base with nothing of it changed but the fragment, and the query if the reference has one. -/
def keepPath (base : Url) (p : Parts) : Url :=
  let u := p.url base.scheme base.server base.path
  if p.query.isNone then { u with query := base.query } else u

/-- The segments in front of the last one; a drive letter at the end of a file's path stays. -/
def withoutLast (kind : SchemeKind) (parts : List String) : List String :=
  match parts.getLast? with
  | some last => if kind = .file ∧ isDrive last then parts else parts.dropLast
  | none => []

/-- Whether a path starts with a drive letter. -/
def startsAtDrive (cs : List Char) : Bool :=
  (driveForm? ((splitPath .file cs).headD [])).isSome

/-- What a path behind a single slash starts from: a drive letter of its own or the drive of the base, or
else the host of the base. -/
def fileRoot (base : Option Url) (cs : List Char) : Server × List String :=
  match base with
  | none => (.none, [])
  | some base =>
    let drive := base.segments.head?.filter isDrive
    if startsAtDrive cs then (.none, [])
    else if drive.isSome then (.none, drive.toList)
    else (base.server.getD .none, [])

/-- A reference to a file. -/
def fileUrl (base : Option Url) (p : Parts) : Except Fault Url := do
  let whole (server : Server) (parts : List String) : Url :=
    p.url "file" (some server) (filePath parts)
  let follow (start : List String) (skipped : Nat) : List String :=
    follow .file start (dropPlain skipped p.raw)
  match p.front, base with
  | [], some base => return keepPath base p
  | [], none => return whole .none [""]
  | c :: rest, _ =>
    if isSlash true c then
      match rest.head?.filter (isSlash true) with
      | some _ =>
        let host := (rest.drop 1).takeWhile (! isSlash true ·)
        if host = [] ∨ (driveForm? host).isSome then return whole .none (follow [] 2)
        let name ← readHost true host
        if name = "localhost" then return whole .none (follow [] (2 + host.length))
        let direct := Url.follow .file [] (p.front.drop (3 + host.length))
        let name := if direct.head?.any isDrive then "" else name
        return whole { Server.none with host := name } (follow [] (3 + host.length))
      | none =>
        let (server, start) := fileRoot base rest
        return whole server (follow start 1)
    else
      match base with
      | some base =>
        if startsAtDrive p.front then return whole .none (follow [] 0)
        return whole (base.server.getD .none) (follow (withoutLast .file base.segments) 0)
      | none => return whole .none (follow [] 0)

/-- A reference relative to a base that is no file. -/
def relativeTo (base : Url) (p : Parts) : Except Fault Url := do
  let kind := SchemeKind.of base.scheme
  match p.front with
  | [] => return keepPath base p
  | c :: rest =>
    if isSlash true c then
      match rest with
      | d :: rest' =>
        if isSlash true d then
          if c = '/' ∧ d = '/' then withServer base.scheme p rest'
          else withServer base.scheme p (rest'.dropWhile (isSlash true))
        else return p.url base.scheme base.server (.segments (follow kind [] rest))
      | [] => return p.url base.scheme base.server (.segments (follow kind [] rest))
    else
      return p.url base.scheme base.server
        (.segments (follow kind (withoutLast kind base.segments) p.front))

/-- A reference that starts with a scheme. -/
def absoluteUrl (base : Option Url) (scheme : String) (p : Parts) : Except Fault Url :=
  match SchemeKind.of scheme with
  | .file => fileUrl (base.filter (·.scheme = "file")) p
  | .special _ =>
    let slashes := (p.front.takeWhile (isSlash true)).length
    match base.filter (·.scheme = scheme) with
    | some base =>
      if slashes < 2 then relativeTo base p else withServer scheme p (p.front.drop slashes)
    | none => withServer scheme p (p.front.drop slashes)
  | .other =>
    match p.front with
    | '/' :: '/' :: rest => withServer scheme p rest
    | '/' :: rest => .ok (p.url scheme none (.segments (follow .other [] rest)))
    | front => .ok (p.url scheme none (.text (String.ofList (escape escapedAlways front))))

/-- Reads a reference. -/
def readFrom (base : Option Url) (text : List Char) : Except Fault Url :=
  let raw := trim text
  match cutScheme (plain raw) with
  | some scheme =>
    absoluteUrl base (String.ofList (scheme.map Char.toLower)) (.of (dropPlain (scheme.length + 1) raw))
  | none =>
    match base with
    | none => .error .noBase
    | some base =>
      let p := Parts.of raw
      if (plain raw).head? = some '#' then .ok (keepPath base p)
      else if ! base.canBeBase then .error .fixedBase
      else if base.scheme = "file" then fileUrl (some base) p
      else relativeTo base p

/-- Reads a URL. -/
def parse (text : String) : Except Fault Url := readFrom none text.toList

/-- The URL that a reference names when it stands in the document at `base`. -/
def join (base : Url) (reference : String) : Except Fault Url := readFrom (some base) reference.toList

end Url
end ScriptImport
