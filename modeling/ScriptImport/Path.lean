/-
# Paths

A path is a text in which slashes separate components; a slash at its start makes it absolute.  Empty
components and `.` mean nothing, except for a `.` at the very start of a relative path.  `..` means the
directory above.

`join` puts segments together and makes a normal form: `..` takes the component before it away as long
as there is one, and the root has nothing above it.  `parent?`, `fileName?` and `extension` take a path
apart without making it normal.
-/

namespace ScriptImport
namespace Path

/-- The parts between the separators `sep`. -/
def splitAt {α : Type} [DecidableEq α] (sep : α) : List α → List (List α)
  | [] => [[]]
  | c :: cs =>
    if c = sep then [] :: splitAt sep cs
    else
      match splitAt sep cs with
      | part :: parts => (c :: part) :: parts
      | [] => [[c]]

/-- Texts with `sep` between them. -/
def joinWith (sep : Char) : List (List Char) → List Char
  | [] => []
  | [part] => part
  | part :: parts => part ++ sep :: joinWith sep parts

/-- Whether a path starts at the root. -/
def isAbsolute (path : List Char) : Bool := path.head? = some '/'

/-- The components of a path that mean something. -/
def components (path : List Char) : List (List Char) :=
  (splitAt '/' path).filter fun part => part ≠ [] && part ≠ ['.']

/-- Goes on from the components in `done` (the last one first): `..` takes the one before it away. -/
def cancel (absolute : Bool) (done : List (List Char)) : List (List Char) → List (List Char)
  | [] => done.reverse
  | part :: parts =>
    if part = ['.', '.'] then
      match done with
      | [] => if absolute then cancel absolute [] parts else cancel absolute [part] parts
      | last :: before =>
        if last = ['.', '.'] then cancel absolute (part :: done) parts
        else cancel absolute before parts
    else cancel absolute (part :: done) parts

/-- The normal form of a path. -/
def normalize (absolute : Bool) (parts : List (List Char)) : List Char :=
  let parts := cancel absolute [] parts
  if absolute then '/' :: joinWith '/' parts
  else if parts = [] then ['.']
  else joinWith '/' parts

/-- Puts segments together and makes a normal form.  Only the first one that is not empty can make it
absolute; slashes and backslashes at the start of a segment do not count. -/
def join (segments : List String) : String :=
  let segments := (segments.map String.toList).filter (· ≠ [])
  match segments with
  | [] => "."
  | first :: _ =>
    let parts := segments.flatMap fun s => components (s.dropWhile fun c => c = '/' || c = '\\')
    String.ofList (normalize (isAbsolute first) parts)

/-- A path cut before its last component: the front, with its separators, and the component. -/
def cutLast (path : List Char) : List Char × List Char :=
  let reversed := path.reverse
  ((reversed.dropWhile (· ≠ '/')).reverse, (reversed.takeWhile (· ≠ '/')).reverse)

/-- How many characters in front of a path belong to it even without a component: the slash of the root
or the `.` that a relative path starts with. -/
def anchorLength (path : List Char) : Nat :=
  match path with
  | '/' :: _ => 1
  | ['.'] => 1
  | '.' :: '/' :: _ => 1
  | _ => 0

/-- Cuts separators and components that mean nothing off the end of a path whose first `anchor`
characters stay; `budget` bounds how many. -/
def trimEnd (anchor : Nat) : (budget : Nat) → List Char → List Char
  | 0, path => path
  | budget + 1, path =>
    if path.length ≤ anchor then path
    else
      let (front, last) := cutLast path
      if last = [] then trimEnd anchor budget front.dropLast
      else if last = ['.'] ∧ anchor ≤ front.length ∧ front ≠ [] then trimEnd anchor budget front
      else path

/-- What the end of a path names. -/
inductive End where
  | root
  | here
  | above
  | name (name : List Char)
  | nothing
  deriving DecidableEq

/-- The last component of a path, and the path in front of it. -/
def cutEnd (path : List Char) : End × List Char :=
  let anchor := anchorLength path
  let path := trimEnd anchor (path.length + 1) path
  if path = ['/'] then (.root, [])
  else if path = [] then (.nothing, [])
  else
    let (front, last) := cutLast path
    let front := trimEnd anchor (path.length + 1) front
    if last = ['.'] then (.here, front)
    else if last = ['.', '.'] then (.above, front)
    else (.name last, front)

/-- The path of the directory that a path is in; the root is in none. -/
def parent? (path : List Char) : Option (List Char) :=
  match cutEnd path with
  | (.root, _) => none
  | (.nothing, _) => none
  | (_, front) => some front

/-- The name at the end of a path. -/
def fileName? (path : List Char) : Option (List Char) :=
  match cutEnd path with
  | (.name name, _) => some name
  | _ => none

/-- The directory of a path as a text: `.` if the path is a name alone, and a path that is in no
directory itself. -/
def directory (path : String) : String :=
  match parent? path.toList with
  | some [] => "."
  | some front => String.ofList front
  | none => if path = "" then "." else path

/-- The name at the end of a path as a text, empty if there is none. -/
def base (path : String) : String := String.ofList ((fileName? path.toList).getD [])

/-- The last point of a name and what follows it, unless the point is the first character. -/
def extensionOf (name : List Char) : List Char :=
  let reversed := name.reverse
  let after := reversed.takeWhile (· ≠ '.')
  if after.length + 1 < reversed.length then '.' :: after.reverse else []

/-- The extension of a path, with its point. -/
def extension (path : String) : String :=
  String.ofList (extensionOf ((fileName? path.toList).getD []))

/-- A name without the ending `ending`, unless nothing or everything would be cut off. -/
def stripEnding (name ending : List Char) : List Char :=
  if ending ≠ [] ∧ ending.isSuffixOf name ∧ ending.length < name.length then
    name.take (name.length - ending.length)
  else name

/-- The name at the end of a path without an ending. -/
def baseWithout (path ending : String) : String :=
  String.ofList (stripEnding (base path).toList ending.toList)

/-- The path `path` as seen from the directory `dir`. -/
def resolve (dir path : String) : String :=
  if isAbsolute path.toList then path
  else if dir = "" then path
  else if dir.toList.getLast? = some '/' then dir ++ path
  else dir ++ "/" ++ path

end Path
end ScriptImport
