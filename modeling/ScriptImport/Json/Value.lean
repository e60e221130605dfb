/-
# JSON values and their text

A number is an integer, or a double when it has a fractional part, an exponent or no room as an integer.
The compact text has no blanks; strings keep every character but the quote, the backslash and the
control characters, which are escaped.
-/

import ScriptImport.Dict
import ScriptImport.Number.Text
import ScriptImport.Text.Hex

namespace ScriptImport

/-- JSON values.  The members of an object are in the order of their keys. -/
inductive Json where
  | null
  | bool (value : Bool)
  | integer (value : Int)
  | float (value : Float)
  | string (value : String)
  | array (items : List Json)
  | object (members : List (String × Json))

namespace Json

/-- A character of a string. -/
def escapeChar (c : Char) : List Char :=
  if c = '"' then ['\\', '"']
  else if c = '\\' then ['\\', '\\']
  else if c = '\n' then ['\\', 'n']
  else if c = '\r' then ['\\', 'r']
  else if c = '\t' then ['\\', 't']
  else if c.toNat = 8 then ['\\', 'b']
  else if c.toNat = 12 then ['\\', 'f']
  else if c.toNat < 32 then '\\' :: 'u' :: Text.hexPadded 4 c.toNat
  else [c]

/-- A string in quotes. -/
def quoted (s : List Char) : List Char := '"' :: s.flatMap escapeChar ++ ['"']

mutual

/-- The compact text of a value. -/
def compact : Json → List Char
  | null => ['n', 'u', 'l', 'l']
  | bool true => ['t', 'r', 'u', 'e']
  | bool false => ['f', 'a', 'l', 's', 'e']
  | integer n => (toString n).toList
  | float x => (Number.scientific x).toList
  | string s => quoted s.toList
  | array items => '[' :: compactItems items ++ [']']
  | object members => '\x7b' :: compactMembers members ++ ['\x7d']

/-- The items of an array with commas between them. -/
def compactItems : List Json → List Char
  | [] => []
  | [v] => compact v
  | v :: vs => compact v ++ ',' :: compactItems vs

/-- The members of an object with commas between them. -/
def compactMembers : List (String × Json) → List Char
  | [] => []
  | [(k, v)] => quoted k.toList ++ ':' :: compact v
  | (k, v) :: ms => quoted k.toList ++ ':' :: compact v ++ ',' :: compactMembers ms

end

/-- The compact text of a value. -/
def text (v : Json) : String := String.ofList (compact v)

end Json

end ScriptImport
