/-
# Why a text is not the wanted JSON

A fault is found at a place: a line, counted from one, and the number of bytes of that line up to where
reading stopped.  `shape` is the fault of well-formed JSON that is not what the reader wants.
-/

namespace ScriptImport
namespace Json

/-- What well-formed JSON is instead of what is wanted. -/
inductive Found where
  | null
  | bool (value : Bool)
  | integer (value : Int)
  | float (text : String)
  | string (quoted : String)
  | sequence
  | map
  deriving Repr

/-- How a message names what was found. -/
def Found.text : Found → String
  | null => "null"
  | bool b => "boolean `" ++ toString b ++ "`"
  | integer n => "integer `" ++ toString n ++ "`"
  | float t => "floating point `" ++ t ++ "`"
  | string q => "string " ++ q
  | sequence => "sequence"
  | map => "map"

/-- How well-formed JSON misses what is wanted. -/
inductive Mismatch where
  | wrongType (found : Found) (expected : String)
  | wrongValue (found : Found) (expected : String)
  | tooShort (length : Nat) (expected : String)
  | missingField (name : String)
  | duplicateField (name : String)
  deriving Repr

/-- The message of a mismatch. -/
def Mismatch.text : Mismatch → String
  | wrongType found expected => "invalid type: " ++ found.text ++ ", expected " ++ expected
  | wrongValue found expected => "invalid value: " ++ found.text ++ ", expected " ++ expected
  | tooShort n expected => "invalid length " ++ toString n ++ ", expected " ++ expected
  | missingField name => "missing field `" ++ name ++ "`"
  | duplicateField name => "duplicate field `" ++ name ++ "`"

/-- Why a text is not the wanted JSON. -/
inductive Fault where
  | endOfList | endOfObject | endOfString | endOfValue
  | missingColon | missingListComma | missingObjectComma
  | badWord | missingValue | badEscape | badNumber | outOfRange | controlCharacter | keyNotString
  | loneSurrogate | openEscape | trailingComma | trailingCharacters | tooDeep
  | shape (mismatch : Mismatch)
  deriving Repr

/-- The message of a fault. -/
def Fault.text : Fault → String
  | endOfList => "EOF while parsing a list"
  | endOfObject => "EOF while parsing an object"
  | endOfString => "EOF while parsing a string"
  | endOfValue => "EOF while parsing a value"
  | missingColon => "expected `:`"
  | missingListComma => "expected `,` or `]`"
  | missingObjectComma => "expected `,` or `\x7d`"
  | badWord => "expected ident"
  | missingValue => "expected value"
  | badEscape => "invalid escape"
  | badNumber => "invalid number"
  | outOfRange => "number out of range"
  | controlCharacter => "control character (\\u0000-\\u001F) found while parsing a string"
  | keyNotString => "key must be a string"
  | loneSurrogate => "lone leading surrogate in hex escape"
  | openEscape => "unexpected end of hex escape"
  | trailingComma => "trailing comma"
  | trailingCharacters => "trailing characters"
  | tooDeep => "recursion limit exceeded"
  | shape m => m.text

/-- A place in a text: the line, and the bytes of the line in front. -/
structure Place where
  line : Nat
  column : Nat
  deriving Repr, DecidableEq

/-- A fault at its place. -/
structure ReadError where
  fault : Fault
  place : Place
  deriving Repr

/-- The message of a fault at its place. -/
def ReadError.message (e : ReadError) : String :=
  e.fault.text ++ " at line " ++ toString e.place.line ++ " column " ++ toString e.place.column

end Json
end ScriptImport
