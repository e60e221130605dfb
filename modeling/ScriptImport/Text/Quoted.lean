/-
# Quoted text for people

A text between double quotes in which nothing is invisible: the quote, the backslash and the common
control characters are escaped with a backslash, and every other character that cannot be shown by
itself is written as its code point, as in `"\u{7f}"`.
-/

import ScriptImport.Text.Printable
import ScriptImport.Text.Hex

namespace ScriptImport
namespace Text

/-- A character of a quoted text. -/
def quoteChar (c : Char) : List Char :=
  if c = '"' then ['\\', '"']
  else if c = '\\' then ['\\', '\\']
  else if c = '\n' then ['\\', 'n']
  else if c = '\r' then ['\\', 'r']
  else if c = '\t' then ['\\', 't']
  else if c.toNat = 0 then ['\\', '0']
  else if isPrintable c then [c]
  else '\\' :: 'u' :: Char.ofNat 0x7b :: hex c.toNat ++ [Char.ofNat 0x7d]

/-- A text in double quotes. -/
def quote (s : String) : String := String.ofList ('"' :: s.toList.flatMap quoteChar ++ ['"'])

/-- Texts in double quotes, in brackets. -/
def quoteAll (texts : List String) : String :=
  "[" ++ String.intercalate ", " (texts.map quote) ++ "]"

end Text
end ScriptImport
