/-
# Reading TOML

A document is a row of lines: headers, keys with values, comments and empty lines.  Nothing is said about
where a document is wrong, only that it is.
-/

import ScriptImport.Number.Text
import ScriptImport.Text.Hex
import ScriptImport.Toml.Value

namespace ScriptImport
namespace Toml

/-- What reads from the front of a text. -/
abbrev Reader := StateT (List Char) Option

namespace Reader

/-- Fails. -/
def fail {α : Type} : Reader α := fun _ => none

/-- The character in front. -/
def peek : Reader (Option Char) := fun cs => some (cs.head?, cs)

/-- Takes the character in front. -/
def next : Reader Char
  | c :: cs => some (c, cs)
  | [] => none

/-- Takes the character `c`. -/
def skip (c : Char) : Reader Unit
  | d :: cs => if c = d then some ((), cs) else none
  | [] => none

/-- Takes a text if it is in front. -/
def eat (text : List Char) : Reader Bool := fun cs =>
  match text.isPrefixOf? cs with
  | some rest => some (true, rest)
  | none => some (false, cs)

/-- Takes the characters in front that satisfy `p`. -/
def takeWhile (p : Char → Bool) : Reader (List Char) := fun cs =>
  some (cs.takeWhile p, cs.dropWhile p)

/-- How many characters are left. -/
def budget : Reader Nat := fun cs => some (cs.length, cs)

/-- Passes over blanks of a line. -/
def blanks : Reader Unit := do
  let _ ← takeWhile fun c => c = ' ' || c = '\t'

/-- Whether a character may stand in comments and literal strings. -/
def isPlain (c : Char) : Bool := c = '\t' || (' ' ≤ c && c ≠ '\x7f')

/-- Passes over a comment. -/
def comment : Reader Unit := do
  if ← eat ['#'] then
    let _ ← takeWhile isPlain

/-- Passes over a line break, if there is one. -/
def lineBreak : Reader Bool := do
  if ← eat ['\n'] then return true
  eat ['\r', '\n']

/-- Passes over blanks, comments and line breaks. -/
def gaps : (budget : Nat) → Reader Unit
  | 0 => return ()
  | n + 1 => do
    blanks
    comment
    if ← lineBreak then gaps n

/-- Passes over what may follow at the end of a line. -/
def endOfLine : Reader Unit := do
  blanks
  comment
  unless ← lineBreak do
    if (← peek).isSome then fail

/-! ## Strings -/

/-- Reads hexadecimal digits. -/
def hex (n : Nat) : (count : Nat) → Reader Nat
  | 0 => return n
  | count + 1 => do
    match Text.hexValue? (← next) with
    | some d => hex (16 * n + d) count
    | none => fail

/-- Reads the number of a character. -/
def codePoint (digits : Nat) : Reader Char := do
  let n ← hex 0 digits
  if n < 0xd800 ∨ (0xdfff < n ∧ n < 0x110000) then return Char.ofNat n else fail

/-- Reads what follows a backslash. -/
def escape : Reader Char := do
  match ← next with
  | 'b' => return '\x08'
  | 't' => return '\t'
  | 'n' => return '\n'
  | 'f' => return '\x0c'
  | 'r' => return '\r'
  | '"' => return '"'
  | '\\' => return '\\'
  | 'u' => codePoint 4
  | 'U' => codePoint 8
  | _ => fail

/-- Reads a string of one line behind its quote. -/
def basicTail : (budget : Nat) → Reader (List Char)
  | 0 => fail
  | n + 1 => do
    let c ← next
    if c = '"' then return []
    else if c = '\\' then
      let d ← escape
      return d :: (← basicTail n)
    else if isPlain c then return c :: (← basicTail n)
    else fail

/-- Reads a literal string of one line behind its quote. -/
def literalTail : Reader (List Char) := do
  let cs ← takeWhile fun c => isPlain c && c ≠ '\x27'
  skip '\x27'
  return cs

/-- Reads up to three quotes behind the text of a string of several lines; all but the last three of up to
five belong to the text. -/
def closing (quote : Char) : Reader (Option (List Char)) := fun cs =>
  let count := (cs.takeWhile (· = quote)).length
  if count < 3 then some (none, cs)
  else
    let inside := min (count - 3) 2
    some (some (List.replicate inside quote), cs.drop (inside + 3))

/-- Passes over the rest of a line and the blanks of those below, behind a backslash at its end. -/
def continued : Reader Bool := fun cs =>
  match (do blanks; lineBreak : Reader Bool).run cs with
  | some (true, rest) =>
    some (true, rest.dropWhile fun c => c = ' ' || c = '\t' || c = '\n' || c = '\r')
  | _ => some (false, cs)

/-- Reads a string of several lines behind its quotes. -/
def linesTail (literal : Bool) : (budget : Nat) → Reader (List Char)
  | 0 => fail
  | n + 1 => do
    match ← closing (if literal then '\x27' else '"') with
    | some inside => return inside
    | none =>
      if ← lineBreak then return '\n' :: (← linesTail literal n)
      else
        let c ← next
        if c = '\\' ∧ ¬literal then
          if ← continued then linesTail literal n
          else
            let d ← escape
            return d :: (← linesTail literal n)
        else if isPlain c then return c :: (← linesTail literal n)
        else fail

/-- Reads a string of one or several lines, whose quote is in front. -/
def string (quote : Char) : Reader String := do
  let literal := quote = '\x27'
  if ← eat [quote, quote, quote] then
    let _ ← lineBreak
    return String.ofList (← linesTail literal (← budget))
  skip quote
  if literal then return String.ofList (← literalTail)
  return String.ofList (← basicTail (← budget))

/-! ## Keys -/

/-- Whether a character may stand in a key without quotes. -/
def isKeyChar (c : Char) : Bool := c.isAlphanum || c = '-' || c = '_'

/-- Reads a key without points. -/
def simpleKey : Reader String := do
  match ← peek with
  | some '"' =>
    skip '"'
    return String.ofList (← basicTail (← budget))
  | some '\x27' =>
    skip '\x27'
    return String.ofList (← literalTail)
  | _ =>
    let cs ← takeWhile isKeyChar
    if cs = [] then fail else return String.ofList cs

/-- How many parts a key has at most. -/
def maxParts : Nat := 79

/-- Reads a key: the part behind the last point, and those in front. -/
def key (front : List String) : (budget : Nat) → Reader (List String × String)
  | 0 => fail
  | n + 1 => do
    blanks
    let part ← simpleKey
    blanks
    if ← eat ['.'] then key (front ++ [part]) n
    else if front.length < maxParts then return (front, part)
    else fail

/-! ## Numbers and dates -/

/-- Whether a text is digits of a kind, perhaps with single underscores between them. -/
def isDigits (p : Char → Bool) (cs : List Char) : Bool :=
  match cs with
  | [] => false
  | [c] => p c
  | c :: '_' :: rest => p c && isDigits p rest
  | c :: rest => p c && isDigits p rest

/-- A text without the sign in front. -/
def unsigned (cs : List Char) : List Char :=
  match cs with
  | '+' :: rest => rest
  | '-' :: rest => rest
  | _ => cs

/-- Whether a text is a decimal integer without a sign. -/
def isInteger (cs : List Char) : Bool :=
  isDigits Char.isDigit cs && (cs.length = 1 || cs.head? ≠ some '0')

/-- The number of decimal digits, where underscores do not count. -/
def decimal (cs : List Char) : Nat :=
  cs.foldl (fun n c => if c = '_' then n else 10 * n + (c.toNat - 48)) 0

/-- The number of digits of a base. -/
def based (base : Nat) (cs : List Char) : Nat :=
  cs.foldl (fun n c => ((Text.hexValue? c).map (base * n + ·)).getD n) 0

/-- Whether a text is an integer of 64 bits. -/
def isInteger64 (cs : List Char) : Bool :=
  match cs with
  | '0' :: 'x' :: rest => isDigits (fun c => (Text.hexValue? c).isSome) rest && based 16 rest < Nat.pow 2 63
  | '0' :: 'o' :: rest => isDigits (fun c => '0' ≤ c && c ≤ '7') rest && based 8 rest < Nat.pow 2 63
  | '0' :: 'b' :: rest => isDigits (fun c => c = '0' || c = '1') rest && based 2 rest < Nat.pow 2 63
  | _ =>
    isInteger (unsigned cs)
      && (if cs.head? = some '-' then decimal (unsigned cs) ≤ Nat.pow 2 63
        else decimal (unsigned cs) < Nat.pow 2 63)

/-- Whether a text is an exponent, its letter included, or nothing. -/
def isExponent (cs : List Char) : Bool :=
  match cs with
  | [] => true
  | c :: rest => (c = 'e' || c = 'E') && isDigits Char.isDigit (unsigned rest)

/-- Whether a number is above all doubles, and not one below all of them. -/
def isTooLarge (cs : List Char) : Bool :=
  (Number.read? (String.ofList (cs.filter (· ≠ '_')))).any (· == Number.infinity)

/-- Whether a text is a number with a fraction or an exponent, or one of the special numbers. -/
def isFloat (signed : List Char) : Bool :=
  let cs := unsigned signed
  let isMark (c : Char) : Bool := c = '.' || c = 'e' || c = 'E'
  let rest := cs.dropWhile (! isMark ·)
  if cs = ['i', 'n', 'f'] ∨ cs = ['n', 'a', 'n'] then true
  else
    isInteger (cs.takeWhile (! isMark ·)) &&
      (match rest with
      | '.' :: rest =>
        isDigits Char.isDigit (rest.takeWhile (! isMark ·)) && isExponent (rest.dropWhile (! isMark ·))
      | [] => false
      | _ => isExponent rest)
      && ! isTooLarge signed

/-- The number of exactly `count` digits in front, and the rest. -/
def takeNumber (count : Nat) (cs : List Char) : Option (Nat × List Char) :=
  let digits := cs.take count
  if digits.length = count ∧ digits.all Char.isDigit then some (decimal digits, cs.drop count)
  else none

/-- The days of a month. -/
def daysIn (year month : Nat) : Nat :=
  if month = 2 then
    if year % 4 = 0 ∧ (year % 100 ≠ 0 ∨ year % 400 = 0) then 29 else 28
  else if month ∈ [4, 6, 9, 11] then 30
  else 31

/-- A date in front of a text, and the rest. -/
def cutDate? (cs : List Char) : Option (List Char × List Char) := do
  match ← takeNumber 4 cs with
  | (year, '-' :: behind) =>
    match ← takeNumber 2 behind with
    | (month, '-' :: behind) =>
      let (day, rest) ← takeNumber 2 behind
      if 1 ≤ month ∧ month ≤ 12 ∧ 1 ≤ day ∧ day ≤ daysIn year month then some (cs.take 10, rest)
      else none
    | _ => none
  | _ => none

/-- The written form of the digits of a fraction of a second: nine of them count, and zeros at the end do
not. -/
def fraction (digits : List Char) : List Char :=
  match ((digits.take 9).reverse.dropWhile (· = '0')).reverse with
  | [] => []
  | kept => '.' :: kept

/-- The written form of a time in front of a text, and the rest. -/
def cutTime? (cs : List Char) : Option (List Char × List Char) := do
  match ← takeNumber 2 cs with
  | (hour, ':' :: behind) =>
    match ← takeNumber 2 behind with
    | (minute, ':' :: behind) =>
      let (second, rest) ← takeNumber 2 behind
      if 24 ≤ hour ∨ 60 ≤ minute ∨ 61 ≤ second then none
      else
        match rest with
        | '.' :: rest =>
          let digits := rest.takeWhile Char.isDigit
          if digits = [] then none
          else some (cs.take 8 ++ fraction digits, rest.dropWhile Char.isDigit)
        | _ => some (cs.take 8, rest)
    | _ => none
  | _ => none

/-- The written form of the distance of a time from universal time, which may be missing. -/
def offset? (cs : List Char) : Option (List Char) :=
  match cs with
  | [] => some []
  | ['Z'] => some ['Z']
  | ['z'] => some ['Z']
  | sign :: rest =>
    if sign = '+' ∨ sign = '-' then do
      match ← takeNumber 2 rest with
      | (hour, ':' :: behind) =>
        match ← takeNumber 2 behind with
        | (minute, []) =>
          if 24 ≤ hour ∨ 60 ≤ minute then none
          else some ((if hour = 0 ∧ minute = 0 then '+' else sign) :: rest)
        | _ => none
      | _ => none
    else none

/-- The written form of a date, a time, or both. -/
def dateTime? (cs : List Char) : Option String :=
  match cutDate? cs with
  | some (date, []) => some (String.ofList date)
  | some (date, c :: rest) =>
    if c = 'T' ∨ c = 't' ∨ c = ' ' then do
      let (time, rest) ← cutTime? rest
      return String.ofList (date ++ 'T' :: time ++ (← offset? rest))
    else none
  | none =>
    match cutTime? cs with
    | some (time, []) => some (String.ofList time)
    | _ => none

/-- Reads a number, a date or a time. -/
def scalar : Reader Value := fun cs =>
  let isPart (c : Char) : Bool := c.isAlphanum || c ∈ ['+', '-', '_', '.', ':']
  let word := cs.takeWhile isPart
  let rest := cs.dropWhile isPart
  match cutDate? word, rest with
  | some (date, []), ' ' :: time =>
    if time.head?.any Char.isDigit then
      (dateTime? (word ++ ' ' :: time.takeWhile isPart)).map fun text =>
        (.time text, time.dropWhile isPart)
    else some (.time (String.ofList date), rest)
  | _, _ =>
    match dateTime? word with
    | some text => some (.time text, rest)
    | none => if isInteger64 word || isFloat word then some (.number, rest) else none

/-! ## Values -/

/-- Reads the items of an array behind its bracket. -/
def items (inner : Reader Value) : (budget : Nat) → Reader (List Value)
  | 0 => fail
  | n + 1 => do
    gaps n
    if ← eat [']'] then return []
    let v ← inner
    gaps n
    if ← eat [','] then return v :: (← items inner n)
    skip ']'
    return [v]

/-- Reads the entries of a table in braces behind a brace or comma. -/
def inlineEntries (inner : Reader Value) (es : Entries) : (budget : Nat) → Reader Entries
  | 0 => fail
  | n + 1 => do
    let (path, name) ← key [] n
    skip '='
    blanks
    let v ← inner
    blanks
    match es.addDotted path name v with
    | none => fail
    | some es =>
      if ← eat [','] then inlineEntries inner es n
      else
        skip '\x7d'
        return es

/-- Reads a value that contains no others. -/
def plainValue : Reader Value := do
  match ← peek with
  | some '"' => return .string (← string '"')
  | some '\x27' => return .string (← string '\x27')
  | some 't' => if ← eat ['t', 'r', 'u', 'e'] then return .bool true else fail
  | some 'f' => if ← eat ['f', 'a', 'l', 's', 'e'] then return .bool false else fail
  | _ => scalar

/-- Reads a value in which up to `n` arrays and tables are inside one another. -/
def valueIn : (n : Nat) → Reader Value
  | 0 => plainValue
  | n + 1 => do
    match ← peek with
    | some '[' =>
      skip '['
      return .array (← items (valueIn n) (← budget))
    | some '\x7b' =>
      skip '\x7b'
      blanks
      if ← eat ['\x7d'] then return .table .inline []
      return .table .inline (← inlineEntries (valueIn n) [] (← budget))
    | _ => plainValue

/-- How many arrays and tables may be inside one another. -/
def maxNesting : Nat := 79

/-! ## Documents -/

/-- A document up to some line: its entries, and the keys of the header in front of that line. -/
structure Document where
  entries : Entries
  header : List String

/-- Reads a header. -/
def header (d : Document) : Reader Document := do
  let several ← eat ['[', '[']
  unless several do skip '['
  let (path, name) ← key [] (← budget)
  skip ']'
  if several then skip ']'
  let added :=
    if several then d.entries.addToTables path name else d.entries.addTable path name
  match added with
  | some entries => return ⟨entries, path ++ [name]⟩
  | none => fail

/-- Reads a key and its value. -/
def entry (d : Document) : Reader Document := do
  let (path, name) ← key [] (← budget)
  skip '='
  blanks
  let v ← valueIn maxNesting
  match d.entries.below d.header (·.addDotted path name v) with
  | some entries => return { d with entries := entries }
  | none => fail

/-- Reads lines up to the end of the text. -/
def lines : (budget : Nat) → Document → Reader Document
  | 0, d => return d
  | n + 1, d => do
    blanks
    match ← peek with
    | none => return d
    | some '[' =>
      let d ← header d
      endOfLine
      lines n d
    | some c =>
      if c = '#' ∨ c = '\n' ∨ c = '\r' then
        endOfLine
        lines n d
      else
        let d ← entry d
        endOfLine
        lines n d

end Reader

/-- Reads a document. -/
def parse (text : String) : Option Entries :=
  let cs := text.toList
  let cs := if cs.head? = some '\ufeff' then cs.drop 1 else cs
  (Reader.lines (cs.length + 1) ⟨[], []⟩).run cs |>.map (·.1.entries)

end Toml
end ScriptImport
