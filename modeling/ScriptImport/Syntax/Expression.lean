/-
# Reading expressions

| expression | operators, loosest first |
| --- | --- |
| assignment | `=`, or an arrow function |
| conditional | `? :` |
| chains | `\|\|`; `&&`; `== != === !==`; `< <= > >=`; `+ -`; `* / %`, all to the left |
| operand | `! - typeof` before it |
| postfix | `.name`, `[index]`, `(arguments)` |

A statement or an expression inside another one is one level deeper, and so is the operand of a prefix
operator; a source may be `maxNesting` levels deep.  `Productions` holds the three productions that go
one level down, and everything here is said over the productions of the level below.  So reading needs
no recursion except over the levels and over the tokens of a list.
-/

import ScriptImport.Syntax.Cursor

namespace ScriptImport
namespace Syntax

/-- The productions that count as one more level of nesting. -/
structure Productions (M : Type → Type) where
  expression : M Expr
  operand : M Expr
  statement : M Stmt

/-- The productions of a level, for lists of tokens. -/
abbrev Level := Productions Parser

/-- An operator between two operands. -/
inductive Operator where
  | binary (op : BinaryOp)
  | logical (op : LogicalOp)
  deriving Repr, DecidableEq

namespace Operator

/-- The operator that a mark is. -/
def ofMark? : Mark → Option Operator
  | .doubleBar => some (.logical .or)
  | .doubleAmp => some (.logical .and)
  | .equal => some (.binary .equal)
  | .notEqual => some (.binary .notEqual)
  | .strictEqual => some (.binary .strictEqual)
  | .strictNotEqual => some (.binary .strictNotEqual)
  | .less => some (.binary .less)
  | .lessEqual => some (.binary .lessEqual)
  | .greater => some (.binary .greater)
  | .greaterEqual => some (.binary .greaterEqual)
  | .plus => some (.binary .add)
  | .minus => some (.binary .sub)
  | .star => some (.binary .mul)
  | .slash => some (.binary .div)
  | .percent => some (.binary .rem)
  | _ => none

/-- How tightly an operator binds. -/
def tightness : Operator → Nat
  | .logical .or => 0
  | .logical .and => 1
  | .binary .equal | .binary .notEqual | .binary .strictEqual | .binary .strictNotEqual => 2
  | .binary .less | .binary .lessEqual | .binary .greater | .binary .greaterEqual => 3
  | .binary .add | .binary .sub => 4
  | .binary .mul | .binary .div | .binary .rem => 5

/-- The expression with this operator between two operands. -/
def apply : Operator → Expr → Expr → Expr
  | .binary op, left, right => .binary op left right
  | .logical op, left, right => .logical op left right

end Operator

/-- The operator of the given tightness that a token is. -/
def Token.operator? (tightness : Nat) : Token → Option Operator
  | .mark m => (Operator.ofMark? m).filter fun op => op.tightness = tightness
  | _ => none

/-- The operator that stands before an operand. -/
def Token.unary? : Token → Option UnaryOp
  | .mark .bang => some .not
  | .mark .minus => some .negate
  | .keyword .typeofWord => some .typeof
  | _ => none

/-- The name that a token is behind a point; some keywords may stand there. -/
def Token.propertyName? : Token → Option String
  | .identifier x => some x
  | .keyword k =>
    if k ∈ [.defaultWord, .importWord, .exportWord, .functionWord, .returnWord, .constWord, .letWord,
      .nullWord, .trueWord, .falseWord] then some k.lexeme else none
  | _ => none

/-- The key that a token is in an object literal. -/
def Token.key? : Token → Option String
  | .string s => some s
  | .number x => some (Number.text x)
  | t => t.propertyName?

variable {M : Type → Type} [Monad M] [Reading M]

namespace Parser

/-- Reads the name of a property behind a point. -/
def propertyName : M String := do
  match (← peek).bind Token.propertyName? with
  | some x =>
    skip
    return x
  | none => fail .missingPropertyName

/-- Reads the key of an entry of an object literal. -/
def key : M String := do
  match (← peek).bind Token.key? with
  | some x =>
    skip
    return x
  | none => fail .missingPropertyName

/-- Reads an entry of an object literal; a key alone stands for the variable of that name. -/
def entry (inner : Productions M) : M (String × Expr) := do
  let k ← key
  if ← eat (Token.isMark .colon) then return (k, ← inner.expression)
  return (k, .name k)

/-- Reads statements up to a closing brace, which it leaves. -/
def statements (inner : Productions M) : (budget : Nat) → M (List Stmt)
  | 0 => spent (fail .openBlock)
  | budget + 1 => do
    if ← sees (Token.isMark .rightBrace) then return []
    if (← peek).isNone then fail .openBlock
    let s ← inner.statement
    return s :: (← statements inner budget)

/-- Reads statements in braces. -/
def block (inner : Productions M) : M (List Stmt) := do
  expectMark .leftBrace
  let ss ← statements inner (← budget)
  expectMark .rightBrace
  return ss

/-- Reads parameters in parentheses. -/
def params : M (List String) := do
  expectMark .leftParen
  listUpTo identifier .rightParen

/-- Reads a function that may have a name. -/
def function (inner : Productions M) : M (Option String × List String × List Stmt) := do
  expectKeyword .functionWord
  let name ← match ← peek with
    | some (.identifier x) => do
      skip
      pure (some x)
    | _ => pure none
  let ps ← params
  return (name, ps, ← block inner)

/-- Reads a function that must have a name. -/
def namedFunction (inner : Productions M) : M (String × List String × List Stmt) := do
  expectKeyword .functionWord
  match ← peek with
  | some (.identifier x) =>
    skip
    let ps ← params
    return (x, ps, ← block inner)
  | _ => fail .namelessFunction

/-- Reads an expression that has no operator outside. -/
def primary (inner : Productions M) : M Expr := do
  match ← peek with
  | some (.number x) =>
    skip
    return .number x
  | some (.string s) =>
    skip
    return .string s
  | some (.identifier x) =>
    skip
    return .name x
  | some (.keyword .trueWord) =>
    skip
    return .bool true
  | some (.keyword .falseWord) =>
    skip
    return .bool false
  | some (.keyword .nullWord) =>
    skip
    return .null
  | some (.keyword .functionWord) =>
    let (name, ps, body) ← function inner
    return .function name ps body
  | some (.mark .leftParen) =>
    skip
    let e ← inner.expression
    expectMark .rightParen
    return e
  | some (.mark .leftBracket) =>
    skip
    return .array (← listUpTo inner.expression .rightBracket)
  | some (.mark .leftBrace) =>
    skip
    return .object (← listUpTo (entry inner) .rightBrace)
  | _ => fail .unexpected

/-- Reads what is applied to the expression `e`: members, indices and arguments. -/
def applied (inner : Productions M) : (budget : Nat) → Expr → M Expr
  | 0, e => spent (return e)
  | budget + 1, e => do
    match ← peek with
    | some (.mark .dot) =>
      skip
      applied inner budget (.member e (← propertyName))
    | some (.mark .leftBracket) =>
      skip
      let i ← inner.expression
      expectMark .rightBracket
      applied inner budget (.index e i)
    | some (.mark .leftParen) =>
      skip
      applied inner budget (.call e (← listUpTo inner.expression .rightParen))
    | _ => return e

/-- Reads an expression and what is applied to it. -/
def postfixed (inner : Productions M) : M Expr := do
  let e ← primary inner
  if ← sees fun t => t.isMark .dot || t.isMark .leftBracket || t.isMark .leftParen then
    applied inner (← budget) e
  else return e

/-- Reads an operand of an operator. -/
def operand (inner : Productions M) : M Expr := do
  match (← peek).bind Token.unary? with
  | some op =>
    skip
    return .unary op (← inner.operand)
  | none => postfixed inner

/-- Reads operators of one tightness and their right operands, behind the operand `left`. -/
def chainAfter (tightness : Nat) (operand : M Expr) : (budget : Nat) → Expr → M Expr
  | 0, left => spent (return left)
  | budget + 1, left => do
    match (← peek).bind (Token.operator? tightness) with
    | some op =>
      skip
      let right ← operand
      chainAfter tightness operand budget (op.apply left right)
    | none => return left

/-- Reads operands with operators between them, the loosest ones of tightness `t`, where `ts` lists
how tight the others are. -/
def chain (operand : M Expr) : (tightnesses : List Nat) → M Expr
  | [] => operand
  | t :: ts => do
    let left ← chain operand ts
    if ((← peek).bind (Token.operator? t)).isSome then
      chainAfter t (chain operand ts) (← budget) left
    else return left

/-- Reads operands and operators between them. -/
def operators (inner : Productions M) : M Expr := chain (operand inner) [0, 1, 2, 3, 4, 5]

/-- Reads a chain of operators, or a choice between two expressions. -/
def conditional (inner : Productions M) : M Expr := do
  let test ← operators inner
  unless ← eat (Token.isMark .question) do return test
  let consequent ← inner.expression
  expectMark .colon
  let alternate ← inner.expression
  return .conditional test consequent alternate

/-- Reads an arrow function. -/
def arrow (inner : Productions M) : M Expr := do
  let ps ←
    if ← sees (Token.isMark .leftParen) then params
    else do pure [← identifier]
  expectMark .arrow
  if ← sees (Token.isMark .leftBrace) then return .function none ps (← block inner)
  return .arrow ps (← inner.expression)

/-- Reads an arrow function, an assignment or a conditional. -/
def assignment (inner : Productions M) : M Expr := do
  if ← arrowAhead then arrow inner
  else
    let e ← conditional inner
    if ← sees (Token.isMark .assign) then
      match e.target? with
      | some target =>
        skip
        return .assign target (← inner.expression)
      | none => fail .badTarget
    else
      return e

end Parser

end Syntax
end ScriptImport
