/-
# Cutting a source into tokens

At the front of the rest of a source stands a gap (a run of blanks, a line comment, or a block comment,
which the end of the source may close), a lexeme, or something that starts no lexeme.  Gaps are passed
over; a lexeme is the longest one that starts there: `===` is one mark, `1.5e+` is the number `1.5`
before the identifier `e` and a plus sign.  A string ends at its own quote, and a backslash in it takes
the next character along; a line break or the end of the source breaks a string off.

`scan` repeats this until the source is used up.  Each gap and each lexeme is at least one character
long (`gap?_shorter`, `front_shorter`), so the rest gets shorter every time.
-/

import ScriptImport.Syntax.Token

namespace ScriptImport
namespace Syntax

/-- A place in a source: byte offset, and line and column, both counted from one, the column in
bytes. -/
structure Position where
  offset : Nat
  line : UInt32
  column : UInt32
  deriving Repr, DecidableEq

/-- The place of the first character. -/
def Position.start : Position := ⟨0, 1, 1⟩

/-- The place behind a character. -/
def Position.after (p : Position) (c : Char) : Position :=
  if c = '\n' then ⟨p.offset + 1, p.line + 1, 1⟩
  else ⟨p.offset + c.utf8Size, p.line, p.column + UInt32.ofNat c.utf8Size⟩

/-- The place behind a text. -/
def Position.afterAll (p : Position) (text : List Char) : Position := text.foldl Position.after p

/-- The span of a text that starts at `p`. -/
def Position.span (p : Position) (text : List Char) : Span :=
  ⟨p.offset, (p.afterAll text).offset, p.line, p.column⟩

/-- A source that holds something that starts no lexeme. -/
structure ScanError where
  text : String
  span : Span
  deriving Repr

/-- Blanks of a source. -/
def isSourceBlank (c : Char) : Bool :=
  c = ' ' || c = '\t' || c = '\r' || c = '\n' || c.toNat = 12

/-- A text up to the end of the block comment that it is in, and the rest. -/
def blockComment : List Char → List Char × List Char
  | '*' :: '/' :: rest => (['*', '/'], rest)
  | c :: rest =>
    let (text, rest) := blockComment rest
    (c :: text, rest)
  | [] => ([], [])

/-- The gap at the front of a source, and the rest. -/
def gap? : List Char → Option (List Char × List Char)
  | '/' :: '/' :: rest => some ('/' :: '/' :: rest.takeWhile (· != '\n'), rest.dropWhile (· != '\n'))
  | '/' :: '*' :: rest =>
    let (text, rest) := blockComment rest
    some ('/' :: '*' :: text, rest)
  | c :: rest =>
    if isSourceBlank c then some (c :: rest.takeWhile isSourceBlank, rest.dropWhile isSourceBlank)
    else none
  | [] => none

/-- The mark at the front of a source, its text, and the rest. -/
def mark? : List Char → Option (Mark × List Char × List Char)
  | '=' :: '=' :: '=' :: rest => some (.strictEqual, ['=', '=', '='], rest)
  | '=' :: '=' :: rest => some (.equal, ['=', '='], rest)
  | '=' :: '>' :: rest => some (.arrow, ['=', '>'], rest)
  | '=' :: rest => some (.assign, ['='], rest)
  | '!' :: '=' :: '=' :: rest => some (.strictNotEqual, ['!', '=', '='], rest)
  | '!' :: '=' :: rest => some (.notEqual, ['!', '='], rest)
  | '!' :: rest => some (.bang, ['!'], rest)
  | '<' :: '=' :: rest => some (.lessEqual, ['<', '='], rest)
  | '<' :: rest => some (.less, ['<'], rest)
  | '>' :: '=' :: rest => some (.greaterEqual, ['>', '='], rest)
  | '>' :: rest => some (.greater, ['>'], rest)
  | '&' :: '&' :: rest => some (.doubleAmp, ['&', '&'], rest)
  | '|' :: '|' :: rest => some (.doubleBar, ['|', '|'], rest)
  | '+' :: rest => some (.plus, ['+'], rest)
  | '-' :: rest => some (.minus, ['-'], rest)
  | '*' :: rest => some (.star, ['*'], rest)
  | '/' :: rest => some (.slash, ['/'], rest)
  | '%' :: rest => some (.percent, ['%'], rest)
  | '(' :: rest => some (.leftParen, ['('], rest)
  | ')' :: rest => some (.rightParen, [')'], rest)
  | '[' :: rest => some (.leftBracket, ['['], rest)
  | ']' :: rest => some (.rightBracket, [']'], rest)
  | ',' :: rest => some (.comma, [','], rest)
  | ';' :: rest => some (.semicolon, [';'], rest)
  | ':' :: rest => some (.colon, [':'], rest)
  | '.' :: rest => some (.dot, ['.'], rest)
  | '?' :: rest => some (.question, ['?'], rest)
  | '\x7b' :: rest => some (.leftBrace, ['\x7b'], rest)
  | '\x7d' :: rest => some (.rightBrace, ['\x7d'], rest)
  | _ => none

/-- First characters of identifiers: ASCII letters, `_` and `$`. -/
def isNameStart (c : Char) : Bool := c.isAlpha || c = '_' || c = '$'

/-- Later characters of identifiers: also digits. -/
def isNameChar (c : Char) : Bool := isNameStart c || c.isDigit

/-- The token of a word: a keyword, or else an identifier. -/
def wordToken (text : List Char) : Token :=
  match Keyword.ofLexeme? (String.ofList text) with
  | some word => .keyword word
  | none => .identifier (String.ofList text)

/-- Digits behind a point, if there is a digit: the text with its point, and the rest. -/
def fraction : List Char → List Char × List Char
  | '.' :: d :: rest =>
    if d.isDigit then ('.' :: d :: rest.takeWhile Char.isDigit, rest.dropWhile Char.isDigit)
    else ([], '.' :: d :: rest)
  | cs => ([], cs)

/-- The digits of an exponent, behind the characters `lead`. -/
def exponentDigits (lead cs : List Char) : List Char × List Char :=
  match cs with
  | d :: rest =>
    if d.isDigit then (lead ++ d :: rest.takeWhile Char.isDigit, rest.dropWhile Char.isDigit)
    else ([], lead ++ cs)
  | [] => ([], lead ++ cs)

/-- An exponent, if it is complete: its text and the rest. -/
def exponent : List Char → List Char × List Char
  | [] => ([], [])
  | e :: cs =>
    if e = 'e' ∨ e = 'E' then
      match cs with
      | '+' :: rest => exponentDigits [e, '+'] rest
      | '-' :: rest => exponentDigits [e, '-'] rest
      | rest => exponentDigits [e] rest
    else ([], e :: cs)

/-- The number whose first digit is `d`: its text and the rest. -/
def numeral (d : Char) (cs : List Char) : List Char × List Char :=
  let whole := cs.takeWhile Char.isDigit
  let (places, rest) := fraction (cs.dropWhile Char.isDigit)
  let (power, rest) := exponent rest
  (d :: whole ++ places ++ power, rest)

/-- The character that a backslash and `c` stand for. -/
def unescape (c : Char) : Char :=
  match c with
  | 'n' => '\n'
  | 't' => '\t'
  | 'r' => '\r'
  | '0' => '\x00'
  | c => c

/-- The inside of a string: its text up to and with the closing quote, what it stands for, and the
rest.  If the string breaks off, the text goes as far as the string does and `closed` is false. -/
structure Quotation where
  text : List Char
  value : List Char
  closed : Bool
  rest : List Char

/-- A quotation with more text in front. -/
def Quotation.after (q : Quotation) (text : List Char) (c : Char) : Quotation :=
  { q with text := text ++ q.text, value := c :: q.value }

/-- The inside of a string that ends at `quote`. -/
def quotation (quote : Char) : List Char → Quotation
  | '\\' :: c :: rest =>
    if c = '\n' then ⟨[], [], false, '\\' :: c :: rest⟩
    else (quotation quote rest).after ['\\', c] (unescape c)
  | c :: rest =>
    if c = quote then ⟨[c], [], true, rest⟩
    else if c = '\n' ∨ c = '\\' then ⟨[], [], false, c :: rest⟩
    else (quotation quote rest).after [c] c
  | [] => ⟨[], [], false, []⟩

/-- A lexeme at the front of a source: its token, its text and the rest; or the text that starts
none. -/
inductive Front where
  | lexeme (token : Token) (text rest : List Char)
  | broken (text : List Char)

/-- What stands at the front of a source that starts with `c` and has no gap there. -/
def front (c : Char) (cs : List Char) : Front :=
  if isNameStart c then
    let text := c :: cs.takeWhile isNameChar
    .lexeme (wordToken text) text (cs.dropWhile isNameChar)
  else if c.isDigit then
    let (text, rest) := numeral c cs
    match Number.read? (String.ofList text) with
    | some value => .lexeme (.number value) text rest
    | none => .broken text
  else if c = '"' ∨ c = '\'' then
    let q := quotation c cs
    if q.closed then .lexeme (.string (String.ofList q.value)) (c :: q.text) q.rest
    else .broken (c :: q.text)
  else
    match mark? (c :: cs) with
    | some (mark, text, rest) => .lexeme (.mark mark) text rest
    | none => .broken [c]

theorem length_dropWhile_le (p : Char → Bool) (cs : List Char) :
    (cs.dropWhile p).length ≤ cs.length :=
  (List.dropWhile_suffix p).length_le

theorem blockComment_shorter (cs : List Char) : (blockComment cs).2.length ≤ cs.length := by
  fun_induction blockComment cs <;> simp_all <;> omega

/-- **A gap is not empty:** what follows it is shorter. -/
theorem gap?_shorter {cs text rest : List Char} (h : gap? cs = some (text, rest)) :
    rest.length < cs.length := by
  unfold gap? at h
  split at h
  · rename_i r
    obtain ⟨-, rfl⟩ := by simpa using h
    have := length_dropWhile_le (· != '\n') r
    simp only [List.length_cons]
    omega
  · rename_i r
    obtain ⟨-, rfl⟩ := by simpa using h
    have := blockComment_shorter r
    simp only [List.length_cons]
    omega
  · rename_i c r _ _
    split at h
    · obtain ⟨-, rfl⟩ := by simpa using h
      have := length_dropWhile_le isSourceBlank r
      simp only [List.length_cons]
      omega
    · simp at h
  · simp at h

theorem fraction_shorter (cs : List Char) : (fraction cs).2.length ≤ cs.length := by
  unfold fraction
  split
  · rename_i d r
    split
    · have := length_dropWhile_le Char.isDigit r
      simp only [List.length_cons]
      omega
    · simp
  · simp

theorem exponentDigits_shorter (lead cs : List Char) :
    (exponentDigits lead cs).2.length ≤ lead.length + cs.length := by
  unfold exponentDigits
  split
  · rename_i d r
    split
    · have := length_dropWhile_le Char.isDigit r
      simp only [List.length_cons]
      omega
    · simp
  · simp

theorem exponent_shorter (cs : List Char) : (exponent cs).2.length ≤ cs.length := by
  unfold exponent
  split
  · simp
  · rename_i e r
    split
    · split
      · rename_i rest
        have := exponentDigits_shorter [e, '+'] rest
        simp only [List.length_cons, List.length_nil] at this ⊢
        omega
      · rename_i rest
        have := exponentDigits_shorter [e, '-'] rest
        simp only [List.length_cons, List.length_nil] at this ⊢
        omega
      · have := exponentDigits_shorter [e] r
        simp only [List.length_cons, List.length_nil] at this ⊢
        omega
    · simp

theorem numeral_shorter (d : Char) (cs : List Char) : (numeral d cs).2.length ≤ cs.length := by
  have h₁ := length_dropWhile_le Char.isDigit cs
  have h₂ := fraction_shorter (cs.dropWhile Char.isDigit)
  have h₃ := exponent_shorter (fraction (cs.dropWhile Char.isDigit)).2
  simp only [numeral]
  omega

theorem quotation_shorter (quote : Char) (cs : List Char) :
    (quotation quote cs).rest.length ≤ cs.length := by
  fun_induction quotation quote cs <;> simp_all [Quotation.after] <;> omega

theorem mark?_shorter {cs text rest : List Char} {mark : Mark}
    (h : mark? cs = some (mark, text, rest)) : rest.length < cs.length := by
  unfold mark? at h
  split at h <;> simp at h <;> obtain ⟨-, -, rfl⟩ := h <;> simp only [List.length_cons] <;> omega

/-- **A lexeme is not empty:** what follows it is shorter. -/
theorem front_shorter {c : Char} {cs text rest : List Char} {token : Token}
    (h : front c cs = .lexeme token text rest) : rest.length ≤ cs.length := by
  unfold front at h
  split at h
  · simp only [Front.lexeme.injEq] at h
    exact h.2.2 ▸ length_dropWhile_le _ _
  split at h
  · dsimp only at h
    split at h
    · simp only [Front.lexeme.injEq] at h
      exact h.2.2 ▸ numeral_shorter c cs
    · simp at h
  split at h
  · dsimp only at h
    split at h
    · simp only [Front.lexeme.injEq] at h
      exact h.2.2 ▸ quotation_shorter c cs
    · simp at h
  · split at h
    · rename_i hm
      have hl := mark?_shorter hm
      simp only [Front.lexeme.injEq] at h
      obtain ⟨-, -, rfl⟩ := h
      simp only [List.length_cons] at hl
      omega
    · simp at h

/-- Cuts the rest of a source, which starts at `p`, into tokens. -/
def scan (p : Position) (cs : List Char) : Except ScanError (List Located) :=
  match cs with
  | [] => .ok []
  | c :: cs =>
    match _hg : gap? (c :: cs) with
    | some (text, rest) => scan (p.afterAll text) rest
    | none =>
      match _hf : front c cs with
      | .lexeme token text rest => (scan (p.afterAll text) rest).map (⟨token, p.span text⟩ :: ·)
      | .broken text => .error ⟨String.ofList text, p.span text⟩
termination_by cs.length
decreasing_by
  · exact gap?_shorter _hg
  · exact Nat.lt_succ_of_le (front_shorter _hf)

/-- A source as tokens, and the place of its end. -/
structure Tokens where
  tokens : List Located
  stop : Span

/-- The tokens of a source. -/
def tokenize (source : String) : Except ScanError Tokens :=
  let cs := source.toList
  let stop := Position.start.afterAll cs
  (scan .start cs).map fun tokens => ⟨tokens, stop.span []⟩

/-- The message of a source that cannot be cut, without its place. -/
def ScanError.reason (e : ScanError) : String := "unexpected character `" ++ e.text ++ "`"

/-- A place as messages show it. -/
def Span.text (s : Span) : String := toString s.line ++ ":" ++ toString s.column

/-- The message of a source that cannot be cut. -/
def ScanError.message (e : ScanError) : String := e.reason ++ " at " ++ e.span.text

end Syntax
end ScriptImport
