/-
# Percent escapes

A byte that may not stand for itself in a part of a URL is written as a percent sign and two capital
hexadecimal digits.  Every part has its own set of characters that are escaped; all of them contain the
control characters and everything beyond ASCII, which is escaped byte by byte in UTF-8.
-/

import ScriptImport.Text.Hex

namespace ScriptImport
namespace Url

/-- Characters that are escaped everywhere. -/
def escapedAlways (c : Char) : Bool := c < ' ' || '\x7f' ≤ c

/-- Characters that are escaped in a fragment. -/
def escapedInFragment (c : Char) : Bool := escapedAlways c || c ∈ [' ', '\x22', '<', '>', '\x60']

/-- Characters that are escaped in a query; in the special schemes, single quotes too. -/
def escapedInQuery (special : Bool) (c : Char) : Bool :=
  escapedAlways c || c ∈ [' ', '\x22', '#', '<', '>'] || (special && c = '\x27')

/-- Characters that are escaped in the segments of a path. -/
def escapedInPath (c : Char) : Bool := escapedInFragment c || c ∈ ['#', '?', '\x7b', '\x7d']

/-- Characters that are escaped in the name and the password of a user. -/
def escapedInUser (c : Char) : Bool :=
  escapedInPath c || c ∈ ['/', ':', ';', '=', '@', '[', '\\', ']', '^', '|']

/-- A byte as an escape. -/
def escapeByte (b : UInt8) : List Char :=
  ['%', Text.upperHexDigit (b.toNat / 16), Text.upperHexDigit (b.toNat % 16)]

/-- A text in which the characters that satisfy `escaped` are escapes. -/
def escape (escaped : Char → Bool) (cs : List Char) : List Char :=
  cs.flatMap fun c => if escaped c then (String.utf8EncodeChar c).flatMap escapeByte else [c]

/-- The bytes of a text in which escapes stand for bytes.  A percent sign without two digits stands for
itself. -/
def unescape : List Char → List UInt8
  | '%' :: a :: b :: cs =>
    match Text.hexValue? a, Text.hexValue? b with
    | some x, some y => UInt8.ofNat (16 * x + y) :: unescape cs
    | _, _ => 0x25 :: unescape (a :: b :: cs)
  | c :: cs => String.utf8EncodeChar c ++ unescape cs
  | [] => []

end Url
end ScriptImport
