/-
# Written modules

`Program.tokens` writes a module down, in one way out of many.

* Every expression inside another one or in a statement stands in parentheses.
* The body of a function that is not an arrow function, and every branch, stands in braces.
* The keys of an object literal are strings, and every entry has a value of its own.
* Names in import and export lists are always renamed.
* A semicolon ends everything but functions and branches.

`nesting` says how many levels further down the written form goes.  A pair of parentheses is one more level, so an
expression counts one for what stands in its own brackets and two for what stands in parentheses inside of them.
-/

import ScriptImport.Proofs.Syntax.Reads

namespace ScriptImport
namespace Syntax

/-! ### Tokens of names and operators -/

/-- The token of a name behind a point: a keyword, if it may stand there, or an identifier. -/
def propertyToken (x : String) : Token :=
  (((Keyword.ofLexeme? x).map Token.keyword).filter (·.propertyName?.isSome)).getD (.identifier x)

/-- The token of a name in an import or export list. -/
def listedToken (x : String) : Token :=
  if x = "default" then .keyword .defaultWord else .identifier x

/-- The token of an operator before its operand. -/
def UnaryOp.token : UnaryOp → Token
  | not => .mark .bang
  | negate => .mark .minus
  | typeof => .keyword .typeofWord

/-- The mark of an operator between its operands. -/
def Operator.mark : Operator → Mark
  | .logical .or => .doubleBar
  | .logical .and => .doubleAmp
  | .binary .equal => .equal
  | .binary .notEqual => .notEqual
  | .binary .strictEqual => .strictEqual
  | .binary .strictNotEqual => .strictNotEqual
  | .binary .less => .less
  | .binary .lessEqual => .lessEqual
  | .binary .greater => .greater
  | .binary .greaterEqual => .greaterEqual
  | .binary .add => .plus
  | .binary .sub => .minus
  | .binary .mul => .star
  | .binary .div => .slash
  | .binary .rem => .percent

/-- The keyword of a binding that can change. -/
def VariableKind.word : VariableKind → Keyword
  | letWord => .letWord
  | varWord => .varWord

theorem propertyName?_propertyToken (x : String) : (propertyToken x).propertyName? = some x := by
  unfold propertyToken
  cases hword : Keyword.ofLexeme? x with
  | none => rfl
  | some k =>
    have hfound := List.find?_some (show Keyword.all.find? (fun k => decide (k.lexeme = x)) = some k from hword)
    have hlexeme : k.lexeme = x := of_decide_eq_true hfound
    cases k <;> subst hlexeme <;> rfl

theorem unary?_token (op : UnaryOp) : op.token.unary? = some op := by cases op <;> rfl

theorem Operator.ofMark?_mark (op : Operator) : Operator.ofMark? op.mark = some op := by
  cases op with
  | binary op => cases op <;> rfl
  | logical op => cases op <;> rfl

/-! ### Brackets -/

/-- Tokens between two marks. -/
def enclosed (opening closing : Mark) (toks : List Token) : List Token :=
  .mark opening :: (toks ++ [.mark closing])

/-- Tokens in parentheses. -/
def inParens (toks : List Token) : List Token := enclosed .leftParen .rightParen toks

/-- Tokens in brackets. -/
def inBrackets (toks : List Token) : List Token := enclosed .leftBracket .rightBracket toks

/-- Tokens in braces. -/
def inBraces (toks : List Token) : List Token := enclosed .leftBrace .rightBrace toks

/-- The parameters of a function. -/
def paramTokens (ps : List String) : List Token := inParens (commas (ps.map fun x => [.identifier x]))

/-- What is assigned to a name that is bound. -/
def initTokens (value : List Token) : List Token := .mark .assign :: inParens value

/-! ### Expressions and statements -/

mutual

/-- A written expression. -/
def Expr.tokens : Expr → List Token
  | .number x => [.number x]
  | .string s => [.string s]
  | .bool b => [.keyword (if b then .trueWord else .falseWord)]
  | .null => [.keyword .nullWord]
  | .name x => [.identifier x]
  | .array es => inBrackets (commas (rowsOfAll es))
  | .object entries => inBraces (commas (rowsOfEntries entries))
  | .member e x => inParens e.tokens ++ [.mark .dot, propertyToken x]
  | .index e i => inParens e.tokens ++ inBrackets (inParens i.tokens)
  | .call e args => inParens e.tokens ++ inParens (commas (rowsOfAll args))
  | .function name ps body =>
    .keyword .functionWord :: (name.toList.map .identifier ++ (paramTokens ps ++ inBraces (tokensOfBlock body)))
  | .arrow ps e => paramTokens ps ++ .mark .arrow :: inParens e.tokens
  | .unary op e => op.token :: inParens e.tokens
  | .binary op a b => inParens a.tokens ++ .mark (Operator.binary op).mark :: inParens b.tokens
  | .logical op a b => inParens a.tokens ++ .mark (Operator.logical op).mark :: inParens b.tokens
  | .conditional test a b =>
    inParens test.tokens ++ .mark .question :: (inParens a.tokens ++ .mark .colon :: inParens b.tokens)
  | .assign target e => target.tokens ++ .mark .assign :: inParens e.tokens

/-- A written target. -/
def Target.tokens : Target → List Token
  | .name x => [.identifier x]
  | .member e x => inParens e.tokens ++ [.mark .dot, propertyToken x]
  | .index e i => inParens e.tokens ++ inBrackets (inParens i.tokens)

/-- Written expressions. -/
def rowsOfAll : List Expr → List (List Token)
  | [] => []
  | e :: es => inParens e.tokens :: rowsOfAll es

/-- Written entries of an object literal. -/
def rowsOfEntries : List (String × Expr) → List (List Token)
  | [] => []
  | (k, e) :: entries => (.string k :: .mark .colon :: inParens e.tokens) :: rowsOfEntries entries

/-- A written declaration. -/
def Declaration.tokens : Declaration → List Token
  | .constant x e => .keyword .constWord :: .identifier x :: (initTokens e.tokens ++ [.mark .semicolon])
  | .variable kind x none => [.keyword kind.word, .identifier x, .mark .semicolon]
  | .variable kind x (some e) => .keyword kind.word :: .identifier x :: (initTokens e.tokens ++ [.mark .semicolon])
  | .function x ps body =>
    .keyword .functionWord :: .identifier x :: (paramTokens ps ++ inBraces (tokensOfBlock body))

/-- A written statement. -/
def Stmt.tokens : Stmt → List Token
  | .declare d => d.tokens
  | .eval e => inParens e.tokens ++ [.mark .semicolon]
  | .branch test consequent none =>
    .keyword .ifWord :: (inParens (inParens test.tokens) ++ inBraces (tokensOfBlock consequent))
  | .branch test consequent (some alternate) =>
    .keyword .ifWord :: (inParens (inParens test.tokens) ++ (inBraces (tokensOfBlock consequent) ++
      .keyword .elseWord :: inBraces (tokensOfBlock alternate)))
  | .leave none => [.keyword .returnWord, .mark .semicolon]
  | .leave (some e) => .keyword .returnWord :: (inParens e.tokens ++ [.mark .semicolon])
  | .throw e => .keyword .throwWord :: (inParens e.tokens ++ [.mark .semicolon])

/-- Written statements. -/
def tokensOfBlock : List Stmt → List Token
  | [] => []
  | s :: ss => s.tokens ++ tokensOfBlock ss

end

mutual

/-- How many levels further down an expression goes. -/
def Expr.nesting : Expr → Nat
  | .number _ => 0
  | .string _ => 0
  | .bool _ => 0
  | .null => 0
  | .name _ => 0
  | .array es => nestingOfAll es
  | .object entries => nestingOfEntries entries
  | .member e _ => e.nesting + 1
  | .index e i => max (e.nesting + 1) (i.nesting + 2)
  | .call e args => max (e.nesting + 1) (nestingOfAll args)
  | .function _ _ body => nestingOfBlock body
  | .arrow _ e => e.nesting + 2
  | .unary _ e => e.nesting + 2
  | .binary _ a b => max (a.nesting + 1) (b.nesting + 1)
  | .logical _ a b => max (a.nesting + 1) (b.nesting + 1)
  | .conditional test a b => max (test.nesting + 1) (max (a.nesting + 2) (b.nesting + 2))
  | .assign target e => max target.nesting (e.nesting + 2)

/-- How many levels further down a target goes. -/
def Target.nesting : Target → Nat
  | .name _ => 0
  | .member e _ => e.nesting + 1
  | .index e i => max (e.nesting + 1) (i.nesting + 2)

/-- How many levels further down expressions in a list go. -/
def nestingOfAll : List Expr → Nat
  | [] => 0
  | e :: es => max (e.nesting + 2) (nestingOfAll es)

/-- How many levels further down the entries of an object literal go. -/
def nestingOfEntries : List (String × Expr) → Nat
  | [] => 0
  | (_, e) :: entries => max (e.nesting + 2) (nestingOfEntries entries)

/-- How many levels further down a declaration goes. -/
def Declaration.nesting : Declaration → Nat
  | .constant _ e => e.nesting + 2
  | .variable _ _ none => 0
  | .variable _ _ (some e) => e.nesting + 2
  | .function _ _ body => nestingOfBlock body

/-- How many levels further down a statement goes. -/
def Stmt.nesting : Stmt → Nat
  | .declare d => d.nesting
  | .eval e => e.nesting + 2
  | .branch test consequent none => max (test.nesting + 2) (nestingOfBlock consequent)
  | .branch test consequent (some alternate) =>
    max (test.nesting + 2) (max (nestingOfBlock consequent) (nestingOfBlock alternate))
  | .leave none => 0
  | .leave (some e) => e.nesting + 2
  | .throw e => e.nesting + 2

/-- How many levels further down the statements of a block go. -/
def nestingOfBlock : List Stmt → Nat
  | [] => 0
  | s :: ss => max (s.nesting + 1) (nestingOfBlock ss)

end

/-- The token row of an entry of an object literal. -/
def entryTokens (entry : String × Expr) : List Token :=
  .string entry.1 :: .mark .colon :: inParens entry.2.tokens

theorem rowsOfAll_eq (es : List Expr) : rowsOfAll es = es.map fun e => inParens e.tokens := by
  induction es with
  | nil => rfl
  | cons e es ih => rw [rowsOfAll, ih, List.map_cons]

theorem rowsOfEntries_eq (entries : List (String × Expr)) : rowsOfEntries entries = entries.map entryTokens := by
  induction entries with
  | nil => rfl
  | cons e entries ih => rw [rowsOfEntries, ih, List.map_cons, entryTokens]

theorem nestingOfAll_le {n : Nat} (es : List Expr) : nestingOfAll es ≤ n ↔ ∀ e ∈ es, e.nesting + 2 ≤ n := by
  induction es with
  | nil => simp [nestingOfAll]
  | cons e es ih => rw [nestingOfAll, Nat.max_le, ih, List.forall_mem_cons]

theorem nestingOfEntries_le {n : Nat} (entries : List (String × Expr)) :
    nestingOfEntries entries ≤ n ↔ ∀ e ∈ entries, e.2.nesting + 2 ≤ n := by
  induction entries with
  | nil => simp [nestingOfEntries]
  | cons e entries ih => rw [nestingOfEntries, Nat.max_le, ih, List.forall_mem_cons]

/-! ### Modules -/

/-- A written name of an import list. -/
def ImportName.tokens (n : ImportName) : List Token :=
  [listedToken n.imported, .identifier "as", .identifier n.localName]

/-- A written name of an export list. -/
def ExportName.tokens (n : ExportName) : List Token :=
  [listedToken n.localName, .identifier "as", listedToken n.exported]

/-- The module that something is imported from. -/
def sourceTokens (source : String) : List Token := [.identifier "from", .string source, .mark .semicolon]

/-- What an import binds besides the default export, if it says anything about that. -/
def ImportNames.tokens : ImportNames → List Token
  | everything x => [.mark .star, .identifier "as", .identifier x]
  | some ns => inBraces (commas (ns.map ImportName.tokens))

/-- A written import, behind its keyword. -/
def Import.tokens (i : Import) : List Token :=
  match i.defaultName, i.names with
  | none, .some [] => [.string i.source, .mark .semicolon]
  | none, names => names.tokens ++ sourceTokens i.source
  | some x, .some [] => .identifier x :: sourceTokens i.source
  | some x, names => .identifier x :: .mark .comma :: (names.tokens ++ sourceTokens i.source)

/-- A written export, behind its keyword. -/
def Export.tokens : Export → List Token
  | .defaultValue e => .keyword .defaultWord :: (inParens e.tokens ++ [.mark .semicolon])
  | .defaultFunction x ps body =>
    .keyword .defaultWord :: .keyword .functionWord :: .identifier x ::
      (paramTokens ps ++ inBraces (tokensOfBlock body))
  | .declaration d => d.tokens
  | .names ns => inBraces (commas (ns.map ExportName.tokens)) ++ [.mark .semicolon]
  | .namesFrom ns source => inBraces (commas (ns.map ExportName.tokens)) ++ sourceTokens source
  | .allFrom source => .mark .star :: sourceTokens source

/-- A written item. -/
def Item.tokens : Item → List Token
  | .importing i => .keyword .importWord :: i.tokens
  | .exporting e => .keyword .exportWord :: e.tokens
  | .statement s => s.tokens

/-- A written module. -/
def Program.tokens (p : Program) : List Token := p.body.flatMap Item.tokens

/-- How many levels further down an export goes. -/
def Export.nesting : Export → Nat
  | .defaultValue e => e.nesting + 2
  | .defaultFunction _ _ body => nestingOfBlock body
  | .declaration d => d.nesting
  | _ => 0

/-- How many levels further down an item goes. -/
def Item.nesting : Item → Nat
  | .importing _ => 0
  | .exporting e => e.nesting
  | .statement s => s.nesting

/-- How many levels deep the items of a module go. -/
def Program.nesting (p : Program) : Nat := (p.body.map Item.nesting).foldr max 0

theorem foldr_max_le {α : Type} {f : α → Nat} {xs : List α} {n : Nat} :
    (xs.map f).foldr max 0 ≤ n ↔ ∀ x ∈ xs, f x ≤ n := by
  induction xs with
  | nil => simp
  | cons x xs ih => rw [List.map_cons, List.foldr_cons, Nat.max_le, ih, List.forall_mem_cons]

end Syntax
end ScriptImport
