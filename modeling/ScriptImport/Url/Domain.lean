/-
# Domain names

A domain name is labels with points between them.  Its characters are mapped to those that they stand for
and composed; then each label is written in ASCII, as it is or as `xn--` and its Punycode.

A label has to keep three rules, also if it is given in Punycode already:

| rule | says |
| --- | --- |
| marks | no mark stands at its start |
| joiners | a joiner has a virama before it, or stands where letters join that it keeps apart |
| directions | if any label of the name has letters from right to left, every label starts with a letter and is of one direction |

Punycode takes time that grows with the square of a label, so very long labels are refused.
-/

import ScriptImport.Text.Compose
import ScriptImport.Text.Direction
import ScriptImport.Text.Joining
import ScriptImport.Url.Domain.Mapping
import ScriptImport.Url.Punycode

namespace ScriptImport
namespace Url
namespace Domain

/-- ASCII characters that no domain name contains. -/
def isForbidden (c : Char) : Bool :=
  c ≤ ' ' || c = '\x7f' || c ∈ ['%', '#', '/', ':', '<', '>', '?', '@', '[', '\\', ']', '^', '|']

/-- The greatest number of characters of a label beyond ASCII. -/
def maxLabel : Nat := 1000

/-- The greatest number of characters of a label's Punycode. -/
def maxCode : Nat := 2000

/-- Whether a text is ASCII. -/
def isAscii (cs : List Char) : Bool := cs.all (·.toNat < 128)

/-! ## Joiners -/

/-- Keeps letters apart that would join. -/
def nonJoiner : Char := '\u200c'

/-- Whether letters join across the place between two texts: `before` (the last character first) and
`behind`. -/
def isJoined (before behind : List Char) : Bool :=
  (before.dropWhile Text.joinsAcross).head?.any Text.joinsBehind
    && (behind.dropWhile Text.joinsAcross).head?.any Text.joinsBefore

/-- Whether every joiner of `cs`, a text that follows the characters `before` (the last one first), stands
where it may. -/
def joinersFit (before : List Char) : List Char → Bool
  | [] => true
  | c :: cs =>
    (if c = nonJoiner ∨ c = '\u200d' then
      before.head?.any (Text.combiningClass · = Text.viramaClass)
        || (c = nonJoiner && isJoined before cs)
    else true) && joinersFit (c :: before) cs

/-! ## Directions -/

/-- Whether a label has letters or numbers that are written from right to left. -/
def isRightToLeft (label : List Char) : Bool :=
  label.any fun c => Text.direction c ∈ [.rightToLeft, .arabicLetter, .arabicNumber]

/-- What may stand in a label of either direction. -/
def anyDirection : List Text.Direction :=
  [.number, .sign, .separator, .terminator, .neutral, .boundary, .mark]

/-- Whether a label is of one direction: the one of its first character, which is a letter.  It ends with a
letter or number of that direction and marks; Arabic numbers are not together with others. -/
def isDirected (label : List Char) : Bool :=
  let directions := label.map Text.direction
  let last? := (directions.reverse.dropWhile (· = .mark)).head?
  match directions with
  | [] => true
  | .leftToRight :: _ =>
    directions.all (fun d => d = .leftToRight || d ∈ anyDirection)
      && last?.all (· ∈ [.leftToRight, .number])
  | first :: _ =>
    first ∈ [.rightToLeft, .arabicLetter]
      && directions.all (fun d =>
        d ∈ [.rightToLeft, .arabicLetter, .arabicNumber] || d ∈ anyDirection)
      && last?.all (· ∈ [.rightToLeft, .arabicLetter, .arabicNumber, .number])
      && !(.number ∈ directions && .arabicNumber ∈ directions)

/-! ## Labels -/

/-- Whether a label keeps the rules of marks and joiners and is not too long. -/
def isFit (label : List Char) : Bool :=
  !label.head?.any Text.isMark && joinersFit [] label
    && (isAscii label || label.length ≤ maxLabel)

/-- The text that a label in Punycode stands for.  It is not ASCII, and mapping and composing leave it as
it is. -/
def decode? (code : List Char) : Option (List Char) := do
  if maxCode < code.length then none
  let text ← Punycode.decode? code
  if isAscii text || text.flatMap mapChar ≠ text || text.any isExcluded || Text.compose text ≠ text
    || Punycode.encode text ≠ code then none
  else some text

/-- The text that a mapped label stands for. -/
def readLabel? (label : List Char) : Option (List Char) := do
  let text ←
    match label with
    | 'x' :: 'n' :: '-' :: '-' :: code => decode? code
    | _ => some label
  if isFit text then some text else none

/-- The form of a label in ASCII. -/
def writeLabel (label : List Char) : List Char :=
  if isAscii label then label else ['x', 'n', '-', '-'] ++ Punycode.encode label

/-- The labels of a domain name. -/
def labels? (name : List Char) : Option (List (List Char)) := do
  if name.any isExcluded then none
  let composed := Text.compose (name.flatMap mapChar)
  if composed.any isForbidden then none
  let labels ← (Path.splitAt '.' composed).mapM readLabel?
  if labels.any isRightToLeft && !labels.all isDirected then none
  else some labels

/-- The written form of a domain name. -/
def read? (name : List Char) : Option (List Char) := do
  return Path.joinWith '.' ((← labels? name).map writeLabel)

end Domain
end Url
end ScriptImport
