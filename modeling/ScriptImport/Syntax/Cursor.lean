/-
# Reading tokens from the front

A production takes tokens from the front and returns what it read, or fails.  `Fault` says why a source is
not a module; the message also names the token at which reading stopped, or the end of the source.

What productions need of the tokens is in `Reading`, so they can be read from anything that has a token in
front and can pass over it.  `Parser` reads them from a list, and what is left of the list is where reading
goes on.

Loops over items take a budget, for `Parser` the number of tokens that are left when they start.  Each round
takes at least one token, so a budget of zero means that there is no token left.
-/

import ScriptImport.Syntax.Scan
import ScriptImport.Syntax.Tree

namespace ScriptImport
namespace Syntax

/-- Why tokens are not a module. -/
inductive Fault where
  | missingToken (token : Token)
  | missingWord (word : String)
  | missingIdentifier
  | missingString
  | missingPropertyName
  | defaultWithoutRename
  | badImport
  | badExport
  | missingInitializer (name : String)
  | openBlock
  | namelessFunction
  | badTarget
  | unexpected
  | tooDeep
  | misplacedItem
  deriving Repr

/-- The message of a fault at a token, or at the end of the source. -/
def Fault.message (found : Option Token) : Fault → String
  | missingToken token => "expected " ++ token.describe ++ ", found " ++ describeFound found
  | missingWord word => "expected `" ++ word ++ "`, found " ++ describeFound found
  | missingIdentifier => "expected identifier, found " ++ describeFound found
  | missingString => "expected string literal, found " ++ describeFound found
  | missingPropertyName => "expected property name, found " ++ describeFound found
  | defaultWithoutRename => "`default` must be renamed with `as`"
  | badImport => "unexpected " ++ describeFound found ++ " in import"
  | badExport => "unexpected " ++ describeFound found ++ " after `export`"
  | missingInitializer name => "missing initializer in const `" ++ name ++ "`"
  | openBlock => "unterminated block"
  | namelessFunction => "function declarations require a name"
  | badTarget => "invalid assignment target"
  | unexpected => "unexpected " ++ describeFound found
  | tooDeep => "nesting too deep"
  | misplacedItem => "import and export declarations may only appear at the top level"

/-- A fault and the token at which reading stopped; none is the end of the source. -/
structure Failure where
  fault : Fault
  found : Option Located
  deriving Repr

/-- Whether a token is the given mark. -/
def Token.isMark (m : Mark) : Token → Bool
  | .mark m' => m = m'
  | _ => false

/-- Whether a token is the given keyword. -/
def Token.isKeyword (k : Keyword) : Token → Bool
  | .keyword k' => k = k'
  | _ => false

/-- Whether a token is the identifier `word`. -/
def Token.isWord (word : String) : Token → Bool
  | .identifier x => x = word
  | _ => false

/-- A way to read tokens, one after the other. -/
class Reading (M : Type → Type) where
  /-- Fails at the token in front. -/
  fail {α : Type} (fault : Fault) : M α
  /-- The token in front; none is the end of the source. -/
  peek : M (Option Token)
  /-- Passes over the token in front. -/
  skip : M Unit
  /-- How many rounds a loop may take. -/
  budget : M Nat
  /-- What a loop comes to when all its rounds are taken; without tokens, `result` is right. -/
  spent {α : Type} (result : M α) : M α
  /-- Whether what is in front starts with the parameters of an arrow function. -/
  arrowAhead : M Bool

/-- Whether tokens behind `opened` parentheses close them all and then go on with an arrow. -/
def closesBeforeArrow : (opened : Nat) → List Located → Bool
  | _, [] => false
  | opened, t :: ts =>
    match t.token, opened with
    | .mark .leftParen, _ => closesBeforeArrow (opened + 1) ts
    | .mark .rightParen, 0 => false
    | .mark .rightParen, 1 => ts.head?.any fun t => t.token.isMark .arrow
    | .mark .rightParen, opened + 2 => closesBeforeArrow (opened + 1) ts
    | _, _ => closesBeforeArrow opened ts

/-- Whether tokens start with the parameters of an arrow function. -/
def startsArrow : List Located → Bool
  | [] => false
  | t :: ts =>
    match t.token with
    | .identifier _ => ts.head?.any fun t => t.token.isMark .arrow
    | .mark .leftParen => closesBeforeArrow 1 ts
    | _ => false

/-- A production that reads from a list of tokens. -/
abbrev Parser := StateT (List Located) (Except Failure)

instance : Reading Parser where
  fail fault ts := .error ⟨fault, ts.head?⟩
  peek ts := .ok (ts.head?.map (·.token), ts)
  skip ts := .ok ((), ts.tail)
  budget ts := .ok (ts.length, ts)
  spent result := result
  arrowAhead ts := .ok (startsArrow ts, ts)

variable {M : Type → Type} [Monad M] [Reading M]

namespace Parser

export Reading (fail peek skip budget spent arrowAhead)

/-- Whether the token in front satisfies `p`. -/
def sees (p : Token → Bool) : M Bool := return (← peek).any p

/-- Passes over the token in front if it satisfies `p`, and says whether it did. -/
def eat (p : Token → Bool) : M Bool := do
  if ← sees p then
    skip
    return true
  else
    return false

/-- Passes over the given mark. -/
def expectMark (m : Mark) : M Unit := do
  unless ← eat (Token.isMark m) do fail (.missingToken (.mark m))

/-- Passes over the given keyword. -/
def expectKeyword (k : Keyword) : M Unit := do
  unless ← eat (Token.isKeyword k) do fail (.missingToken (.keyword k))

/-- Passes over the identifier `word`. -/
def expectWord (word : String) : M Unit := do
  unless ← eat (Token.isWord word) do fail (.missingWord word)

/-- Reads an identifier. -/
def identifier : M String := do
  match ← peek with
  | some (.identifier x) =>
    skip
    return x
  | _ => fail .missingIdentifier

/-- Reads a string. -/
def string : M String := do
  match ← peek with
  | some (.string s) =>
    skip
    return s
  | _ => fail .missingString

/-- Passes over the semicolon that may end a statement. -/
def semicolon : M Unit := do
  let _ ← eat (Token.isMark .semicolon)

/-- Reads items with commas between them, and perhaps one behind the last, up to the mark `close`,
which it leaves. -/
def separated {α : Type} (item : M α) (close : Mark) : (budget : Nat) → M (List α)
  | 0 => spent do return [← item]
  | budget + 1 => do
    if ← sees (Token.isMark close) then return []
    let x ← item
    if ← eat (Token.isMark .comma) then return x :: (← separated item close budget)
    return [x]

/-- Reads items with commas between them and passes over the mark `close` behind them. -/
def listUpTo {α : Type} (item : M α) (close : Mark) : M (List α) := do
  let xs ← separated item close (← budget)
  expectMark close
  return xs

end Parser

end Syntax
end ScriptImport
