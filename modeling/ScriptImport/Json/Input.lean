/-
# Reading the characters of a JSON text

A reader takes characters from the front of the input and keeps count of lines and bytes.  Some faults
are reported where reading stands (`fail`), others behind the character that stands there (`failNext`),
which is the one that shows them.
-/

import ScriptImport.Json.Fault
import ScriptImport.Text.Hex

namespace ScriptImport
namespace Json

/-- What is left of a text, and where that starts. -/
structure Input where
  rest : List Char
  place : Place

/-- The place behind a character. -/
def Place.after (p : Place) (c : Char) : Place :=
  if c = '\n' then ⟨p.line + 1, 0⟩ else ⟨p.line, p.column + c.utf8Size⟩

/-- The place one byte further on. -/
def Input.nextPlace (i : Input) : Place :=
  match i.rest with
  | [] => i.place
  | c :: _ => if c = '\n' then ⟨i.place.line + 1, 0⟩ else ⟨i.place.line, i.place.column + 1⟩

/-- The start of a text. -/
def Input.start (text : List Char) : Input := ⟨text, ⟨1, 0⟩⟩

/-- What reads from the front of an input. -/
abbrev Reader := StateT Input (Except ReadError)

namespace Reader

/-- Fails where reading stands. -/
def fail {α : Type} (fault : Fault) : Reader α := fun i => .error ⟨fault, i.place⟩

/-- Fails one byte further on. -/
def failNext {α : Type} (fault : Fault) : Reader α := fun i => .error ⟨fault, i.nextPlace⟩

/-- The character in front. -/
def peek : Reader (Option Char) := fun i => .ok (i.rest.head?, i)

/-- Takes the character in front. -/
def next : Reader (Option Char) := fun i =>
  match i.rest with
  | [] => .ok (none, i)
  | c :: rest => .ok (some c, ⟨rest, i.place.after c⟩)

/-- Passes over the character in front. -/
def skip : Reader Unit := do
  let _ ← next

/-- How many characters are left. -/
def budget : Reader Nat := fun i => .ok (i.rest.length, i)

/-- Takes the characters in front that satisfy `p`. -/
def takeWhile (p : Char → Bool) : Reader (List Char) := fun i =>
  .ok (i.rest.takeWhile p, ⟨i.rest.dropWhile p, (i.rest.takeWhile p).foldl Place.after i.place⟩)

/-- Blanks between the parts of a text. -/
def isBlank (c : Char) : Bool := c = ' ' || c = '\n' || c = '\t' || c = '\r'

/-- Passes over blanks; the character behind them. -/
def peekPast : Reader (Option Char) := do
  let _ ← takeWhile isBlank
  peek

/-- Takes the rest of a word whose first letter has been taken. -/
def word : List Char → Reader Unit
  | [] => return ()
  | c :: cs => do
    match ← peek with
    | none => fail .endOfValue
    | some d =>
      if d ≠ c then failNext .badWord
      skip
      word cs

/-- Takes four bytes and reads them as hexadecimal digits. -/
def fourHex : Reader Nat := fun i =>
  let bytes : List Char → Nat := fun cs => cs.foldr (fun c n => c.utf8Size + n) 0
  if bytes i.rest < 4 then
    .error ⟨.endOfString, i.rest.foldl Place.after i.place⟩
  else
    match i.rest with
    | a :: b :: c :: d :: rest =>
      match Text.hexValue? a, Text.hexValue? b, Text.hexValue? c, Text.hexValue? d with
      | some a', some b', some c', some d' =>
        .ok (((a' * 16 + b') * 16 + c') * 16 + d', ⟨rest, [a, b, c, d].foldl Place.after i.place⟩)
      | _, _, _, _ => .error ⟨.badEscape, placeAfterBytes 4 i.place i.rest⟩
    | _ => .error ⟨.badEscape, placeAfterBytes 4 i.place i.rest⟩
where
  /-- The place `n` bytes further on. -/
  placeAfterBytes (n : Nat) (p : Place) : List Char → Place
    | [] => p
    | c :: cs =>
      if n = 0 then p
      else if n < c.utf8Size then ⟨p.line, p.column + n⟩
      else placeAfterBytes (n - c.utf8Size) (p.after c) cs

/-- The character of a pair of surrogates. -/
def ofSurrogates (high low : Nat) : Char :=
  Char.ofNat (0x10000 + (high - 0xd800) * 0x400 + (low - 0xdc00))

/-- Passes over the character `c` of the second escape of a pair. -/
def pairChar (c : Char) : Reader Unit := do
  match ← peek with
  | none => fail .endOfString
  | some d =>
    if d ≠ c then failNext .openEscape
    skip

/-- Reads the digits of a numeric escape, and the second escape of a pair. -/
def numericEscape : Reader Char := do
  let n ← fourHex
  if 0xdc00 ≤ n ∧ n ≤ 0xdfff then fail .loneSurrogate
  else if n < 0xd800 ∨ 0xdbff < n then return Char.ofNat n
  else
    pairChar '\\'
    pairChar 'u'
    let m ← fourHex
    if m < 0xdc00 ∨ 0xdfff < m then fail .loneSurrogate
    return ofSurrogates n m

/-- The character that a backslash and `c` stand for, except in numeric escapes. -/
def unescape? (c : Char) : Option Char :=
  match c with
  | '"' => some '"'
  | '\\' => some '\\'
  | '/' => some '/'
  | 'b' => some (Char.ofNat 8)
  | 'f' => some (Char.ofNat 12)
  | 'n' => some '\n'
  | 'r' => some '\r'
  | 't' => some '\t'
  | _ => none

/-- Reads what follows a backslash. -/
def escape : Reader Char := do
  match ← peek with
  | none => fail .endOfString
  | some c =>
    match unescape? c with
    | some d =>
      skip
      return d
    | none =>
      if c ≠ 'u' then failNext .badEscape
      skip
      numericEscape

/-- Reads the inside of a string and its closing quote. -/
def stringTail : (budget : Nat) → Reader (List Char)
  | 0 => fail .endOfString
  | budget + 1 => do
    match ← next with
    | none => fail .endOfString
    | some c =>
      if c = '"' then return []
      else if c = '\\' then
        let d ← escape
        return d :: (← stringTail budget)
      else if c.toNat < 32 then fail .controlCharacter
      else return c :: (← stringTail budget)

/-- Reads a string whose opening quote has been taken. -/
def string : Reader String := do
  return String.ofList (← stringTail (← budget))

end Reader
end Json
end ScriptImport
