/-
# Files

A tree of directories and files, as a dictionary from the text of an absolute path to what is there.  The
root is always a directory.  A path is walked component by component: everything in front of the last
component has to be a directory, `..` is the directory above, and paths without a slash in front start at
the root.  A path can also be given by its bytes, which need not be text.

Paths that are locked can be read but not changed.
-/

import ScriptImport.Dict
import ScriptImport.Path

namespace ScriptImport

/-- What is at a path. -/
inductive Files.Entry where
  | directory
  | file (bytes : ByteArray)

/-- The directories and files, without the root. -/
structure Files where
  entries : Dict Files.Entry
  /-- Paths that cannot be changed. -/
  locked : List String

/-- Why something cannot be done with a path. -/
inductive FileError where
  | missing
  | denied
  | exists
  | notDirectory
  | isDirectory
  | nameTooLong
  | nulInPath
  | notText
  deriving DecidableEq, Repr

/-- The message of an error, with the number that the system gives it. -/
def FileError.message : FileError → String
  | missing => "No such file or directory (os error 2)"
  | denied => "Permission denied (os error 13)"
  | «exists» => "File exists (os error 17)"
  | notDirectory => "Not a directory (os error 20)"
  | isDirectory => "Is a directory (os error 21)"
  | nameTooLong => "File name too long (os error 36)"
  | nulInPath => "file name contained an unexpected NUL byte"
  | notText => "stream did not contain valid UTF-8"

namespace Files

/-- No files but the root. -/
def empty : Files := ⟨[], []⟩

/-- A place in the tree: the components of its path, the last one first. -/
abbrev Place := List String

/-- The text of the path of a place. -/
def pathOf (place : Place) : String := String.join (place.reverse.map ("/" ++ ·))

/-- What is at a place. -/
def entry? (f : Files) (place : Place) : Option Entry :=
  if place = [] then some .directory else Dict.get? f.entries (pathOf place)

/-- The greatest number of bytes of a component. -/
def maxName : Nat := 255

/-- The greatest number of bytes of a path. -/
def maxPath : Nat := 4095

/-- The place that a component leads to from a place, which has to be a directory. -/
def step (f : Files) (place : Place) (part : String) : Except FileError Place :=
  match f.entry? place with
  | none => .error .missing
  | some (.file _) => .error .notDirectory
  | some .directory =>
    if part = "" ∨ part = "." then .ok place
    else if part = ".." then .ok place.tail
    else if maxName < part.utf8ByteSize then .error .nameTooLong
    else .ok (part :: place)

/-- The place that a component leads to whose bytes are known.  There is nothing with a name that is no
text. -/
def stepBytes (f : Files) (place : Place) (part : List UInt8) : Except FileError Place :=
  match String.fromUTF8? ⟨part.toArray⟩ with
  | some name => f.step place name
  | none => do
    let _ ← f.step place "."
    .error (if maxName < part.length then .nameTooLong else .missing)

/-- Walks down from a place. -/
def walk (f : Files) (place : Place) : List String → Except FileError Place
  | [] => .ok place
  | part :: rest => do walk f (← f.step place part) rest

/-- The components of the text of a path. -/
def components (path : String) : List String :=
  (Path.splitAt '/' path.toList).map String.ofList

/-- The place that a path names; something may be there or not. -/
def place (f : Files) (path : String) : Except FileError Place :=
  if path = "" then .error .missing
  else if '\x00' ∈ path.toList then .error .nulInPath
  else if maxPath < path.utf8ByteSize then .error .nameTooLong
  else f.walk [] (components path)

/-- The place that a path names whose bytes are known. -/
def placeOfBytes (f : Files) (path : List UInt8) : Except FileError Place :=
  if path = [] then .error .missing
  else if 0 ∈ path then .error .nulInPath
  else if maxPath < path.length then .error .nameTooLong
  else (Path.splitAt 0x2f path).foldlM f.stepBytes []

/-- What is at a path. -/
def find? (f : Files) (path : String) : Option Entry :=
  match f.place path with
  | .ok p => f.entry? p
  | .error _ => none

/-- Whether something is at a path. -/
def contains (f : Files) (path : String) : Bool := (f.find? path).isSome

/-- Whether a file is at a path. -/
def isFile (f : Files) (path : String) : Bool :=
  match f.find? path with
  | some (.file _) => true
  | _ => false

/-- The bytes of the file at a place. -/
def readAt (f : Files) (place : Place) : Except FileError ByteArray :=
  match f.entry? place with
  | none => .error .missing
  | some .directory => .error .isDirectory
  | some (.file bytes) => .ok bytes

/-- The text that bytes are. -/
def decode (bytes : ByteArray) : Except FileError String :=
  match String.fromUTF8? bytes with
  | some text => .ok text
  | none => .error .notText

/-- The bytes of a file. -/
def read (f : Files) (path : String) : Except FileError ByteArray := do
  f.readAt (← f.place path)

/-- The text of a file. -/
def readText (f : Files) (path : String) : Except FileError String := do
  decode (← f.read path)

/-- The text of a file; the path is known by its bytes. -/
def readTextOfBytes (f : Files) (path : List UInt8) : Except FileError String := do
  decode (← f.readAt (← f.placeOfBytes path))

/-- Puts something at a place. -/
def put (f : Files) (place : Place) (entry : Entry) : Except FileError Files :=
  if pathOf place ∈ f.locked then .error .denied
  else .ok { f with entries := Dict.insert f.entries (pathOf place) entry }

/-- Writes a file, in place of the one that is there. -/
def write (f : Files) (path : String) (bytes : ByteArray) : Except FileError Files := do
  let place ← f.place path
  match f.entry? place with
  | some .directory => throw .isDirectory
  | _ => f.put place (.file bytes)

/-- Writes a file with a text. -/
def writeText (f : Files) (path text : String) : Except FileError Files := f.write path text.toUTF8

/-- Makes the directories that are missing on the way down from a place. -/
def makeDown (f : Files) (place : Place) : List String → Except FileError Files
  | [] => .ok f
  | part :: rest =>
    if part = "" ∨ part = "." then makeDown f place rest
    else if part = ".." then makeDown f place.tail rest
    else if maxName < part.utf8ByteSize then .error .nameTooLong
    else
      match f.entry? (part :: place) with
      | some .directory => makeDown f (part :: place) rest
      | some (.file _) => .error (if rest = [] then .exists else .notDirectory)
      | none => do makeDown (← f.put (part :: place) .directory) (part :: place) rest

/-- Makes a directory and those above it, as far as they are missing. -/
def makeDirectories (f : Files) (path : String) : Except FileError Files :=
  f.makeDown [] (components path)

/-- Removes a file. -/
def remove (f : Files) (path : String) : Except FileError Files := do
  let place ← f.place path
  match f.entry? place with
  | none => throw .missing
  | some .directory => throw .isDirectory
  | some (.file _) =>
    if pathOf place ∈ f.locked then throw .denied
    return { f with entries := Dict.erase f.entries (pathOf place) }

/-- The names in a directory, in their order. -/
def names (f : Files) (path : String) : Except FileError (List String) := do
  let place ← f.place path
  match f.entry? place with
  | none => throw .missing
  | some (.file _) => throw .notDirectory
  | some .directory =>
    return f.entries.filterMap fun (key, _) => do
      let name ← List.isPrefixOf? (pathOf place ++ "/").toList key.toList
      if '/' ∈ name then none else some (String.ofList name)

end Files
end ScriptImport
