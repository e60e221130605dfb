/-
# Reading statements and modules

`atDepth n` holds the productions that may go `n` levels further down: with none left they fail, and
otherwise they are the productions over those with one level less.  `parse` reads a source.
-/

import ScriptImport.Syntax.Expression

namespace ScriptImport
namespace Syntax

variable {M : Type → Type} [Monad M] [Reading M]

namespace Parser

/-- Reads a binding behind its keyword: a name and perhaps an initial value. -/
def binding (inner : Productions M) : M (String × Option Expr) := do
  let name ← identifier
  if ← eat (Token.isMark .assign) then return (name, some (← inner.expression))
  return (name, none)

/-- Reads a constant, a variable or a named function; `none` if the token in front starts none. -/
def declaration? (inner : Productions M) : M (Option Declaration) := do
  match ← peek with
  | some (.keyword .constWord) =>
    skip
    match ← binding inner with
    | (name, some init) =>
      semicolon
      return some (.constant name init)
    | (name, none) => fail (.missingInitializer name)
  | some (.keyword .letWord) =>
    skip
    let (name, init) ← binding inner
    semicolon
    return some (.variable .letWord name init)
  | some (.keyword .varWord) =>
    skip
    let (name, init) ← binding inner
    semicolon
    return some (.variable .varWord name init)
  | some (.keyword .functionWord) =>
    let (name, ps, body) ← namedFunction inner
    return some (.function name ps body)
  | _ => return none

/-- Reads a branch of a conditional statement: statements in braces, or one statement. -/
def branch (inner : Productions M) : M (List Stmt) := do
  if ← sees (Token.isMark .leftBrace) then block inner
  else return [← inner.statement]

/-- Whether nothing is returned: the token in front ends a statement. -/
def endsStatement : Option Token → Bool
  | none => true
  | some t => t.isMark .semicolon || t.isMark .rightBrace

/-- Reads a statement. -/
def statement (inner : Productions M) : M Stmt := do
  match ← declaration? inner with
  | some d => return .declare d
  | none =>
    match ← peek with
    | some (.keyword .importWord) => fail .misplacedItem
    | some (.keyword .exportWord) => fail .misplacedItem
    | some (.keyword .ifWord) =>
      skip
      expectMark .leftParen
      let test ← inner.expression
      expectMark .rightParen
      let consequent ← branch inner
      if ← eat (Token.isKeyword .elseWord) then
        return .branch test consequent (some (← branch inner))
      return .branch test consequent none
    | some (.keyword .returnWord) =>
      skip
      if endsStatement (← peek) then
        semicolon
        return .leave none
      let e ← inner.expression
      semicolon
      return .leave (some e)
    | some (.keyword .throwWord) =>
      skip
      let e ← inner.expression
      semicolon
      return .throw e
    | _ =>
      let e ← inner.expression
      semicolon
      return .eval e

/-- Reads `default` or an identifier. -/
def moduleName : M String := do
  if ← eat (Token.isKeyword .defaultWord) then return "default"
  identifier

/-- Reads a name of an import list; the default export needs a name of its own. -/
def importName : M ImportName := do
  let imported ← moduleName
  if ← eat (Token.isWord "as") then return ⟨imported, ← identifier⟩
  if imported = "default" then fail .defaultWithoutRename
  return ⟨imported, imported⟩

/-- Reads a name of an export list. -/
def exportName : M ExportName := do
  let localName ← moduleName
  if ← eat (Token.isWord "as") then return ⟨localName, ← moduleName⟩
  return ⟨localName, localName⟩

/-- Reads the module that is imported from, behind the names. -/
def importSource (defaultName : Option String) (names : ImportNames) : M Import := do
  expectWord "from"
  let source ← string
  semicolon
  return ⟨source, defaultName, names⟩

/-- Reads the names that an import binds besides the default export, and its source. -/
def importNames (defaultName : Option String) : M Import := do
  if ← eat (Token.isMark .star) then
    expectWord "as"
    let localName ← identifier
    importSource defaultName (.everything localName)
  else if ← eat (Token.isMark .leftBrace) then
    let names ← listUpTo importName .rightBrace
    importSource defaultName (.some names)
  else fail .badImport

/-- Reads an import behind its keyword. -/
def importing : M Import := do
  match ← peek with
  | some (.string source) =>
    skip
    semicolon
    return ⟨source, none, .some []⟩
  | some (.identifier name) =>
    skip
    if ← eat (Token.isMark .comma) then importNames (some name)
    else importSource (some name) (.some [])
  | _ => importNames none

/-- Reads an export behind its keyword. -/
def exporting (inner : Productions M) : M Export := do
  match ← declaration? inner with
  | some d => return .declaration d
  | none =>
    match ← peek with
    | some (.keyword .defaultWord) =>
      skip
      if ← sees (Token.isKeyword .functionWord) then
        match ← function inner with
        | (some name, ps, body) => return .defaultFunction name ps body
        | (none, ps, body) => return .defaultValue (.function none ps body)
      else
        let e ← inner.expression
        semicolon
        return .defaultValue e
    | some (.mark .star) =>
      skip
      expectWord "from"
      let source ← string
      semicolon
      return .allFrom source
    | some (.mark .leftBrace) =>
      skip
      let names ← listUpTo exportName .rightBrace
      if ← eat (Token.isWord "from") then
        let source ← string
        semicolon
        return .namesFrom names source
      semicolon
      return .names names
    | _ => fail .badExport

/-- Reads an item. -/
def item (inner : Productions M) : M Item := do
  if ← eat (Token.isKeyword .importWord) then return .importing (← importing)
  if ← eat (Token.isKeyword .exportWord) then return .exporting (← exporting inner)
  return .statement (← statement inner)

/-- Reads items up to the end of the source. -/
def items (inner : Productions M) : (budget : Nat) → M (List Item)
  | 0 => spent (return [])
  | budget + 1 => do
    if (← peek).isNone then return []
    let i ← item inner
    return i :: (← items inner budget)

/-- The productions that may go `n` levels further down. -/
def atDepth : (n : Nat) → Level
  | 0 => ⟨fail .tooDeep, fail .tooDeep, fail .tooDeep⟩
  | n + 1 =>
    let inner := atDepth n
    ⟨assignment inner, operand inner, statement inner⟩

/-- How many levels deep a source may be. -/
def maxNesting : Nat := 128

/-- Reads a module. -/
def program : Parser Program := do
  return ⟨← items (atDepth maxNesting) (← budget)⟩

end Parser

/-- Why a source is not a module. -/
inductive SourceError where
  | scan (error : ScanError)
  | fault (fault : Fault) (found : Option Token) (span : Span)
  deriving Repr

/-- The message without its place. -/
def SourceError.reason : SourceError → String
  | .scan e => e.reason
  | .fault f found _ => f.message found

/-- Where reading stopped. -/
def SourceError.span : SourceError → Span
  | .scan e => e.span
  | .fault _ _ span => span

/-- The message with its place. -/
def SourceError.message (e : SourceError) : String := e.reason ++ " at " ++ e.span.text

/-- Reads a source. -/
def parse (source : String) : Except SourceError Program :=
  match tokenize source with
  | .error e => .error (.scan e)
  | .ok ts =>
    match Parser.program.run ts.tokens with
    | .ok (p, _) => .ok p
    | .error f =>
      .error (.fault f.fault (f.found.map (·.token)) ((f.found.map (·.span)).getD ts.stop))

end Syntax
end ScriptImport
