/-
# Tokens of a module's source

A source is a row of tokens between blanks and comments.  A token is a keyword, a mark (punctuation or
an operator), an identifier, a number or a string; `from`, `as` and `undefined` are plain identifiers.
`Keyword.lexeme` and `Mark.lexeme` give the characters of the fixed tokens, `name` the names by which
they are reported.

A `Span` locates a token: byte offsets of both ends, line and column of the first character, both from
one, the column counted in bytes.  Line and column are words of 32 bits: in a source that is too large they start
again from zero.
-/

import ScriptImport.Number.Text
import ScriptImport.Text.Quoted

namespace ScriptImport
namespace Syntax

/-- Words that are no identifiers. -/
inductive Keyword where
  | importWord | exportWord | defaultWord | constWord | letWord | varWord | functionWord | returnWord
  | ifWord | elseWord | throwWord | typeofWord | trueWord | falseWord | nullWord
  deriving Repr, DecidableEq

/-- Punctuation and operators. -/
inductive Mark where
  | leftBrace | rightBrace | leftParen | rightParen | leftBracket | rightBracket
  | comma | semicolon | colon | dot | question | arrow
  | assign | equal | strictEqual | notEqual | strictNotEqual
  | less | lessEqual | greater | greaterEqual
  | plus | minus | star | slash | percent | bang | doubleAmp | doubleBar
  deriving Repr, DecidableEq

/-- A token of a source. -/
inductive Token where
  | keyword (word : Keyword)
  | mark (mark : Mark)
  | identifier (name : String)
  | number (value : Float)
  | string (value : String)
  deriving Repr

/-- Where a token stands. -/
structure Span where
  start : Nat
  stop : Nat
  line : UInt32
  column : UInt32
  deriving Repr, DecidableEq

/-- A token with its place. -/
structure Located where
  token : Token
  span : Span
  deriving Repr

namespace Keyword

/-- The characters of a keyword. -/
def lexeme : Keyword → String
  | importWord => "import"
  | exportWord => "export"
  | defaultWord => "default"
  | constWord => "const"
  | letWord => "let"
  | varWord => "var"
  | functionWord => "function"
  | returnWord => "return"
  | ifWord => "if"
  | elseWord => "else"
  | throwWord => "throw"
  | typeofWord => "typeof"
  | trueWord => "true"
  | falseWord => "false"
  | nullWord => "null"

/-- The name under which a keyword is reported. -/
def name : Keyword → String
  | importWord => "Import"
  | exportWord => "Export"
  | defaultWord => "Default"
  | constWord => "Const"
  | letWord => "Let"
  | varWord => "Var"
  | functionWord => "Function"
  | returnWord => "Return"
  | ifWord => "If"
  | elseWord => "Else"
  | throwWord => "Throw"
  | typeofWord => "Typeof"
  | trueWord => "True"
  | falseWord => "False"
  | nullWord => "Null"

/-- Every keyword. -/
def all : List Keyword :=
  [importWord, exportWord, defaultWord, constWord, letWord, varWord, functionWord, returnWord,
    ifWord, elseWord, throwWord, typeofWord, trueWord, falseWord, nullWord]

/-- The keyword with these characters. -/
def ofLexeme? (s : String) : Option Keyword := all.find? fun k => k.lexeme = s

end Keyword

namespace Mark

/-- The characters of a mark. -/
def lexeme : Mark → String
  | leftBrace => "\x7b"
  | rightBrace => "\x7d"
  | leftParen => "("
  | rightParen => ")"
  | leftBracket => "["
  | rightBracket => "]"
  | comma => ","
  | semicolon => ";"
  | colon => ":"
  | dot => "."
  | question => "?"
  | arrow => "=>"
  | assign => "="
  | equal => "=="
  | strictEqual => "==="
  | notEqual => "!="
  | strictNotEqual => "!=="
  | less => "<"
  | lessEqual => "<="
  | greater => ">"
  | greaterEqual => ">="
  | plus => "+"
  | minus => "-"
  | star => "*"
  | slash => "/"
  | percent => "%"
  | bang => "!"
  | doubleAmp => "&&"
  | doubleBar => "||"

/-- The name under which a mark is reported. -/
def name : Mark → String
  | leftBrace => "LeftBrace"
  | rightBrace => "RightBrace"
  | leftParen => "LeftParen"
  | rightParen => "RightParen"
  | leftBracket => "LeftBracket"
  | rightBracket => "RightBracket"
  | comma => "Comma"
  | semicolon => "Semicolon"
  | colon => "Colon"
  | dot => "Dot"
  | question => "Question"
  | arrow => "Arrow"
  | assign => "Assign"
  | equal => "Equal"
  | strictEqual => "StrictEqual"
  | notEqual => "NotEqual"
  | strictNotEqual => "StrictNotEqual"
  | less => "Less"
  | lessEqual => "LessEqual"
  | greater => "Greater"
  | greaterEqual => "GreaterEqual"
  | plus => "Plus"
  | minus => "Minus"
  | star => "Star"
  | slash => "Slash"
  | percent => "Percent"
  | bang => "Bang"
  | doubleAmp => "AmpAmp"
  | doubleBar => "PipePipe"

end Mark

/-- A number as an error message shows it: the words for the infinities are short. -/
def describeNumber (x : Float) : String :=
  match Number.Binary.ofFloat x with
  | .infinite negative => if negative then "-inf" else "inf"
  | _ => Number.positional x

/-- A token as an error message shows it. -/
def Token.describe : Token → String
  | .keyword k => "`" ++ k.name ++ "`"
  | .mark m => "`" ++ m.name ++ "`"
  | .identifier x => "identifier `" ++ x ++ "`"
  | .number x => "number `" ++ describeNumber x ++ "`"
  | .string s => "string " ++ Text.quote s

/-- What an error message says was found: a token, or the end of the source. -/
def describeFound : Option Token → String
  | some token => token.describe
  | none => "end of input"

end Syntax
end ScriptImport
