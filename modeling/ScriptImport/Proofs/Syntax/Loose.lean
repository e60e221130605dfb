/-
# Trees with room for what no source has

`Syntax` has no room for an import inside a function, a constant without a value or an assignment to a sum.  The trees
here do: a statement may be an import or an export, a constant may lack its value, a function its name, and anything
can be assigned to.  `loosen` takes a tree of `Syntax` to such a tree and `tighten?` takes it back, if it can
(`Expr.tighten?_loosen`).  It can exactly if the tree is well formed (`Loose.Expr.wellFormed_iff`), which says what a
source never has; so modules are well formed (`Program.wellFormed_loosen`).
-/

import ScriptImport.Syntax.Tree

namespace ScriptImport
namespace Syntax
namespace Loose

/-- The kinds of bindings. -/
inductive BindingKind where
  | constant
  | variable (kind : VariableKind)

mutual

/-- Expressions. -/
inductive Expr where
  | number (value : Float)
  | string (value : String)
  | bool (value : Bool)
  | null
  | name (name : String)
  | array (items : List Expr)
  | object (entries : List (String × Expr))
  | member (object : Expr) (property : String)
  | index (object : Expr) (index : Expr)
  | call (callee : Expr) (args : List Expr)
  | function (name : Option String) (params : List String) (body : Body)
  | unary (op : UnaryOp) (operand : Expr)
  | binary (op : BinaryOp) (left right : Expr)
  | logical (op : LogicalOp) (left right : Expr)
  | conditional (test consequent alternate : Expr)
  | assign (target : Expr) (value : Expr)

/-- What a function does. -/
inductive Body where
  | block (statements : List Stmt)
  | value (expr : Expr)

/-- Statements. -/
inductive Stmt where
  | importing (declaration : Import)
  | exporting (declaration : Export)
  | bind (kind : BindingKind) (name : String) (init : Option Expr)
  | function (name : Option String) (params : List String) (body : Body)
  | eval (expr : Expr)
  | branch (test : Expr) (consequent : List Stmt) (alternate : Option (List Stmt))
  | leave (value : Option Expr)
  | throw (value : Expr)

/-- Export declarations. -/
inductive Export where
  | defaultValue (value : Expr)
  | defaultFunction (name : Option String) (params : List String) (body : Body)
  | declaration (statement : Stmt)
  | names (names : List ExportName) (source : Option String)
  | allFrom (source : String)

end

/-- A module. -/
structure Program where
  body : List Stmt

end Loose

/-! ### Trees as looser trees -/

mutual

/-- An expression as a looser tree. -/
def Expr.loosen : Expr → Loose.Expr
  | .number x => .number x
  | .string s => .string s
  | .bool b => .bool b
  | .null => .null
  | .name x => .name x
  | .array items => .array (loosenList items)
  | .object entries => .object (loosenEntries entries)
  | .member e key => .member e.loosen key
  | .index e i => .index e.loosen i.loosen
  | .call callee args => .call callee.loosen (loosenList args)
  | .function name params body => .function name params (.block (loosenBlock body))
  | .arrow params e => .function none params (.value e.loosen)
  | .unary op e => .unary op e.loosen
  | .binary op a b => .binary op a.loosen b.loosen
  | .logical op a b => .logical op a.loosen b.loosen
  | .conditional test a b => .conditional test.loosen a.loosen b.loosen
  | .assign target e => .assign target.loosen e.loosen

/-- A target as the expression that it is written as. -/
def Target.loosen : Target → Loose.Expr
  | .name x => .name x
  | .member e key => .member e.loosen key
  | .index e i => .index e.loosen i.loosen

/-- Expressions as looser trees. -/
def loosenList : List Expr → List Loose.Expr
  | [] => []
  | e :: es => e.loosen :: loosenList es

/-- The properties of an object literal as looser trees. -/
def loosenEntries : List (String × Expr) → List (String × Loose.Expr)
  | [] => []
  | (key, e) :: es => (key, e.loosen) :: loosenEntries es

/-- A declaration as a looser tree. -/
def Declaration.loosen : Declaration → Loose.Stmt
  | .constant name e => .bind .constant name (some e.loosen)
  | .variable kind name none => .bind (.variable kind) name none
  | .variable kind name (some e) => .bind (.variable kind) name (some e.loosen)
  | .function name params body => .function (some name) params (.block (loosenBlock body))

/-- A statement as a looser tree. -/
def Stmt.loosen : Stmt → Loose.Stmt
  | .declare d => d.loosen
  | .eval e => .eval e.loosen
  | .branch test consequent none => .branch test.loosen (loosenBlock consequent) none
  | .branch test consequent (some alternate) =>
    .branch test.loosen (loosenBlock consequent) (some (loosenBlock alternate))
  | .leave none => .leave none
  | .leave (some e) => .leave (some e.loosen)
  | .throw e => .throw e.loosen

/-- Statements as looser trees. -/
def loosenBlock : List Stmt → List Loose.Stmt
  | [] => []
  | stmt :: rest => stmt.loosen :: loosenBlock rest

end

/-- What a function does as a looser tree. -/
def Body.loosen : Body → Loose.Body
  | .block statements => .block (loosenBlock statements)
  | .value e => .value e.loosen

/-- An item as a looser tree, which is a statement like any other. -/
def Item.loosen : Item → Loose.Stmt
  | .importing i => .importing i
  | .exporting (.defaultValue e) => .exporting (.defaultValue e.loosen)
  | .exporting (.defaultFunction name params body) =>
    .exporting (.defaultFunction (some name) params (.block (loosenBlock body)))
  | .exporting (.declaration d) => .exporting (.declaration d.loosen)
  | .exporting (.names ns) => .exporting (.names ns none)
  | .exporting (.namesFrom ns source) => .exporting (.names ns (some source))
  | .exporting (.allFrom source) => .exporting (.allFrom source)
  | .statement stmt => stmt.loosen

/-- A module as a looser tree. -/
def Program.loosen (p : Program) : Loose.Program := ⟨p.body.map Item.loosen⟩

/-! ### Looser trees as trees -/

namespace Loose

mutual

/-- The expression that a looser tree stands for. -/
def Expr.tighten? : Expr → Option Syntax.Expr
  | .number x => some (.number x)
  | .string s => some (.string s)
  | .bool b => some (.bool b)
  | .null => some .null
  | .name x => some (.name x)
  | .array items => do return .array (← tightenList? items)
  | .object entries => do return .object (← tightenEntries? entries)
  | .member e key => do return .member (← e.tighten?) key
  | .index e i => do return .index (← e.tighten?) (← i.tighten?)
  | .call callee args => do return .call (← callee.tighten?) (← tightenList? args)
  | .function name params (.block body) => do return .function name params (← tightenBlock? body)
  | .function none params (.value e) => do return .arrow params (← e.tighten?)
  | .function (some _) _ (.value _) => none
  | .unary op e => do return .unary op (← e.tighten?)
  | .binary op a b => do return .binary op (← a.tighten?) (← b.tighten?)
  | .logical op a b => do return .logical op (← a.tighten?) (← b.tighten?)
  | .conditional test a b => do return .conditional (← test.tighten?) (← a.tighten?) (← b.tighten?)
  | .assign target e => do return .assign (← target.tightenTarget?) (← e.tighten?)

/-- The target that a looser tree stands for. -/
def Expr.tightenTarget? : Expr → Option Target
  | .name x => some (.name x)
  | .member e key => do return .member (← e.tighten?) key
  | .index e i => do return .index (← e.tighten?) (← i.tighten?)
  | _ => none

/-- The expressions that looser trees stand for. -/
def tightenList? : List Expr → Option (List Syntax.Expr)
  | [] => some []
  | e :: es => do return (← e.tighten?) :: (← tightenList? es)

/-- The properties that looser trees stand for. -/
def tightenEntries? : List (String × Expr) → Option (List (String × Syntax.Expr))
  | [] => some []
  | (key, e) :: es => do return (key, ← e.tighten?) :: (← tightenEntries? es)

/-- The statement that a looser tree stands for, below the top level. -/
def Stmt.tighten? : Stmt → Option Syntax.Stmt
  | .importing _ => none
  | .exporting _ => none
  | .bind .constant name (some e) => do return .declare (.constant name (← e.tighten?))
  | .bind .constant _ none => none
  | .bind (.variable kind) name none => some (.declare (.variable kind name none))
  | .bind (.variable kind) name (some e) => do return .declare (.variable kind name (some (← e.tighten?)))
  | .function (some name) params (.block body) => do return .declare (.function name params (← tightenBlock? body))
  | .function .. => none
  | .eval e => do return .eval (← e.tighten?)
  | .branch test consequent none => do return .branch (← test.tighten?) (← tightenBlock? consequent) none
  | .branch test consequent (some alternate) => do
    return .branch (← test.tighten?) (← tightenBlock? consequent) (some (← tightenBlock? alternate))
  | .leave none => some (.leave none)
  | .leave (some e) => do return .leave (some (← e.tighten?))
  | .throw e => do return .throw (← e.tighten?)

/-- The statements that looser trees stand for. -/
def tightenBlock? : List Stmt → Option (List Syntax.Stmt)
  | [] => some []
  | stmt :: rest => do return (← stmt.tighten?) :: (← tightenBlock? rest)

end

/-- What a function does that a looser tree stands for. -/
def Body.tighten? : Body → Option Syntax.Body
  | .block statements => do return .block (← tightenBlock? statements)
  | .value e => do return .value (← e.tighten?)

end Loose

mutual

theorem Expr.tighten?_loosen : ∀ e : Expr, e.loosen.tighten? = some e
  | .number _ => rfl
  | .string _ => rfl
  | .bool _ => rfl
  | .null => rfl
  | .name _ => rfl
  | .array items => by simp [Expr.loosen, Loose.Expr.tighten?, tightenList?_loosenList items]
  | .object entries => by simp [Expr.loosen, Loose.Expr.tighten?, tightenEntries?_loosenEntries entries]
  | .member e _ => by simp [Expr.loosen, Loose.Expr.tighten?, e.tighten?_loosen]
  | .index e i => by simp [Expr.loosen, Loose.Expr.tighten?, e.tighten?_loosen, i.tighten?_loosen]
  | .call callee args => by
    simp [Expr.loosen, Loose.Expr.tighten?, callee.tighten?_loosen, tightenList?_loosenList args]
  | .function _ _ body => by simp [Expr.loosen, Loose.Expr.tighten?, tightenBlock?_loosenBlock body]
  | .arrow _ e => by simp [Expr.loosen, Loose.Expr.tighten?, e.tighten?_loosen]
  | .unary _ e => by simp [Expr.loosen, Loose.Expr.tighten?, e.tighten?_loosen]
  | .binary _ a b => by simp [Expr.loosen, Loose.Expr.tighten?, a.tighten?_loosen, b.tighten?_loosen]
  | .logical _ a b => by simp [Expr.loosen, Loose.Expr.tighten?, a.tighten?_loosen, b.tighten?_loosen]
  | .conditional test a b => by
    simp [Expr.loosen, Loose.Expr.tighten?, test.tighten?_loosen, a.tighten?_loosen, b.tighten?_loosen]
  | .assign target e => by simp [Expr.loosen, Loose.Expr.tighten?, target.tightenTarget?_loosen, e.tighten?_loosen]

theorem Target.tightenTarget?_loosen : ∀ t : Target, t.loosen.tightenTarget? = some t
  | .name _ => rfl
  | .member e _ => by simp [Target.loosen, Loose.Expr.tightenTarget?, e.tighten?_loosen]
  | .index e i => by simp [Target.loosen, Loose.Expr.tightenTarget?, e.tighten?_loosen, i.tighten?_loosen]

theorem tightenList?_loosenList : ∀ es : List Expr, Loose.tightenList? (loosenList es) = some es
  | [] => rfl
  | e :: es => by simp [loosenList, Loose.tightenList?, e.tighten?_loosen, tightenList?_loosenList es]

theorem tightenEntries?_loosenEntries : ∀ es : List (String × Expr),
    Loose.tightenEntries? (loosenEntries es) = some es
  | [] => rfl
  | (_, e) :: es => by simp [loosenEntries, Loose.tightenEntries?, e.tighten?_loosen, tightenEntries?_loosenEntries es]

theorem Declaration.tighten?_loosen : ∀ d : Declaration, d.loosen.tighten? = some (.declare d)
  | .constant _ e => by simp [Declaration.loosen, Loose.Stmt.tighten?, e.tighten?_loosen]
  | .variable _ _ none => rfl
  | .variable _ _ (some e) => by simp [Declaration.loosen, Loose.Stmt.tighten?, e.tighten?_loosen]
  | .function _ _ body => by simp [Declaration.loosen, Loose.Stmt.tighten?, tightenBlock?_loosenBlock body]

theorem Stmt.tighten?_loosen : ∀ stmt : Stmt, stmt.loosen.tighten? = some stmt
  | .declare d => d.tighten?_loosen
  | .eval e => by simp [Stmt.loosen, Loose.Stmt.tighten?, e.tighten?_loosen]
  | .branch test consequent none => by
    simp [Stmt.loosen, Loose.Stmt.tighten?, test.tighten?_loosen, tightenBlock?_loosenBlock consequent]
  | .branch test consequent (some alternate) => by
    simp [Stmt.loosen, Loose.Stmt.tighten?, test.tighten?_loosen, tightenBlock?_loosenBlock consequent,
      tightenBlock?_loosenBlock alternate]
  | .leave none => rfl
  | .leave (some e) => by simp [Stmt.loosen, Loose.Stmt.tighten?, e.tighten?_loosen]
  | .throw e => by simp [Stmt.loosen, Loose.Stmt.tighten?, e.tighten?_loosen]

theorem tightenBlock?_loosenBlock : ∀ statements : List Stmt,
    Loose.tightenBlock? (loosenBlock statements) = some statements
  | [] => rfl
  | stmt :: rest => by simp [loosenBlock, Loose.tightenBlock?, stmt.tighten?_loosen, tightenBlock?_loosenBlock rest]

end

theorem Body.tighten?_loosen (b : Body) : b.loosen.tighten? = some b := by
  cases b with
  | block statements => simp [Body.loosen, Loose.Body.tighten?, tightenBlock?_loosenBlock]
  | value e => simp [Body.loosen, Loose.Body.tighten?, Expr.tighten?_loosen]

/-! ### Well-formed trees -/

namespace Loose

/-- A name, a member or an indexed element. -/
def Expr.Assignable : Expr → Prop
  | .name _ => True
  | .member .. => True
  | .index .. => True
  | _ => False

mutual

/-- Every target in an expression can be assigned to, a function whose body is an expression has no name, and the
statements in it are well formed. -/
def Expr.WellFormed : Expr → Prop
  | .number _ => True
  | .string _ => True
  | .bool _ => True
  | .null => True
  | .name _ => True
  | .array items => WellFormedList items
  | .object entries => WellFormedEntries entries
  | .member e _ => e.WellFormed
  | .index e i => e.WellFormed ∧ i.WellFormed
  | .call callee args => callee.WellFormed ∧ WellFormedList args
  | .function _ _ (.block body) => WellFormedBlock body
  | .function name _ (.value e) => name = none ∧ e.WellFormed
  | .unary _ e => e.WellFormed
  | .binary _ a b => a.WellFormed ∧ b.WellFormed
  | .logical _ a b => a.WellFormed ∧ b.WellFormed
  | .conditional test a b => test.WellFormed ∧ a.WellFormed ∧ b.WellFormed
  | .assign target e => target.Assignable ∧ target.WellFormed ∧ e.WellFormed

/-- All of some expressions are well formed. -/
def WellFormedList : List Expr → Prop
  | [] => True
  | e :: es => e.WellFormed ∧ WellFormedList es

/-- All properties of an object literal are well formed. -/
def WellFormedEntries : List (String × Expr) → Prop
  | [] => True
  | (_, e) :: es => e.WellFormed ∧ WellFormedEntries es

/-- A statement below the top level is no import and no export, a constant has a value, and a function has a name and
a block. -/
def Stmt.WellFormed : Stmt → Prop
  | .importing _ => False
  | .exporting _ => False
  | .bind .constant _ none => False
  | .bind (.variable _) _ none => True
  | .bind _ _ (some e) => e.WellFormed
  | .function (some _) _ (.block body) => WellFormedBlock body
  | .function .. => False
  | .eval e => e.WellFormed
  | .branch test consequent none => test.WellFormed ∧ WellFormedBlock consequent
  | .branch test consequent (some alternate) =>
    test.WellFormed ∧ WellFormedBlock consequent ∧ WellFormedBlock alternate
  | .leave none => True
  | .leave (some e) => e.WellFormed
  | .throw e => e.WellFormed

/-- All of some statements below the top level are well formed. -/
def WellFormedBlock : List Stmt → Prop
  | [] => True
  | stmt :: rest => stmt.WellFormed ∧ WellFormedBlock rest

end

/-- A statement that binds a name. -/
def Stmt.Binds : Stmt → Prop
  | .bind .. => True
  | .function .. => True
  | _ => False

/-- A well-formed export of a declaration declares something, and a default function has a name. -/
def Export.WellFormed : Export → Prop
  | .defaultValue e => e.WellFormed
  | .defaultFunction (some _) _ (.block body) => WellFormedBlock body
  | .defaultFunction .. => False
  | .declaration stmt => stmt.Binds ∧ stmt.WellFormed
  | .names .. => True
  | .allFrom _ => True

/-- A statement at the top level may be an import or an export, too. -/
def Stmt.WellFormedItem : Stmt → Prop
  | .importing _ => True
  | .exporting d => d.WellFormed
  | stmt => stmt.WellFormed

/-- All statements of a module are well formed. -/
def Program.WellFormed (p : Program) : Prop := ∀ stmt ∈ p.body, stmt.WellFormedItem

/-- One step after the other gives something if both do. -/
theorem exists_bind_eq_some {α β : Type} {x : Option α} {f : α → Option β} :
    (∃ b, x.bind f = some b) ↔ ∃ a, x = some a ∧ ∃ b, f a = some b := by
  simp only [Option.bind_eq_some_iff]
  exact ⟨fun ⟨b, a, ha, hb⟩ => ⟨a, ha, b, hb⟩, fun ⟨a, ha, b, hb⟩ => ⟨b, a, ha, hb⟩⟩

attribute [local simp] exists_bind_eq_some

mutual

theorem Expr.wellFormed_iff : ∀ e : Expr, e.WellFormed ↔ ∃ x, e.tighten? = some x
  | .number _ => by simp [Expr.WellFormed, Expr.tighten?]
  | .string _ => by simp [Expr.WellFormed, Expr.tighten?]
  | .bool _ => by simp [Expr.WellFormed, Expr.tighten?]
  | .null => by simp [Expr.WellFormed, Expr.tighten?]
  | .name _ => by simp [Expr.WellFormed, Expr.tighten?]
  | .array items => by simp [Expr.WellFormed, Expr.tighten?, wellFormedList_iff items]
  | .object entries => by simp [Expr.WellFormed, Expr.tighten?, wellFormedEntries_iff entries]
  | .member e _ => by simp [Expr.WellFormed, Expr.tighten?, e.wellFormed_iff]
  | .index e i => by simp [Expr.WellFormed, Expr.tighten?, e.wellFormed_iff, i.wellFormed_iff]
  | .call callee args => by simp [Expr.WellFormed, Expr.tighten?, callee.wellFormed_iff, wellFormedList_iff args]
  | .function _ _ (.block body) => by simp [Expr.WellFormed, Expr.tighten?, wellFormedBlock_iff body]
  | .function none _ (.value e) => by simp [Expr.WellFormed, Expr.tighten?, e.wellFormed_iff]
  | .function (some _) _ (.value _) => by simp [Expr.WellFormed, Expr.tighten?]
  | .unary _ e => by simp [Expr.WellFormed, Expr.tighten?, e.wellFormed_iff]
  | .binary _ a b => by simp [Expr.WellFormed, Expr.tighten?, a.wellFormed_iff, b.wellFormed_iff]
  | .logical _ a b => by simp [Expr.WellFormed, Expr.tighten?, a.wellFormed_iff, b.wellFormed_iff]
  | .conditional test a b => by
    simp [Expr.WellFormed, Expr.tighten?, test.wellFormed_iff, a.wellFormed_iff, b.wellFormed_iff]
  | .assign target e => by
    simp [Expr.WellFormed, Expr.tighten?, ← target.assignable_iff, ← e.wellFormed_iff, and_assoc]

theorem Expr.assignable_iff : ∀ e : Expr, e.Assignable ∧ e.WellFormed ↔ ∃ x, e.tightenTarget? = some x
  | .name _ => by simp [Expr.Assignable, Expr.WellFormed, Expr.tightenTarget?]
  | .member e _ => by simp [Expr.Assignable, Expr.WellFormed, Expr.tightenTarget?, e.wellFormed_iff]
  | .index e i => by
    simp [Expr.Assignable, Expr.WellFormed, Expr.tightenTarget?, e.wellFormed_iff, i.wellFormed_iff]
  | .number _ => by simp [Expr.Assignable, Expr.tightenTarget?]
  | .string _ => by simp [Expr.Assignable, Expr.tightenTarget?]
  | .bool _ => by simp [Expr.Assignable, Expr.tightenTarget?]
  | .null => by simp [Expr.Assignable, Expr.tightenTarget?]
  | .array _ => by simp [Expr.Assignable, Expr.tightenTarget?]
  | .object _ => by simp [Expr.Assignable, Expr.tightenTarget?]
  | .call _ _ => by simp [Expr.Assignable, Expr.tightenTarget?]
  | .function _ _ _ => by simp [Expr.Assignable, Expr.tightenTarget?]
  | .unary _ _ => by simp [Expr.Assignable, Expr.tightenTarget?]
  | .binary _ _ _ => by simp [Expr.Assignable, Expr.tightenTarget?]
  | .logical _ _ _ => by simp [Expr.Assignable, Expr.tightenTarget?]
  | .conditional _ _ _ => by simp [Expr.Assignable, Expr.tightenTarget?]
  | .assign _ _ => by simp [Expr.Assignable, Expr.tightenTarget?]

theorem wellFormedList_iff : ∀ es : List Expr, WellFormedList es ↔ ∃ xs, tightenList? es = some xs
  | [] => by simp [WellFormedList, tightenList?]
  | e :: es => by simp [WellFormedList, tightenList?, e.wellFormed_iff, wellFormedList_iff es]

theorem wellFormedEntries_iff : ∀ es : List (String × Expr), WellFormedEntries es ↔ ∃ xs, tightenEntries? es = some xs
  | [] => by simp [WellFormedEntries, tightenEntries?]
  | (_, e) :: es => by simp [WellFormedEntries, tightenEntries?, e.wellFormed_iff, wellFormedEntries_iff es]

theorem Stmt.wellFormed_iff : ∀ stmt : Stmt, stmt.WellFormed ↔ ∃ x, stmt.tighten? = some x
  | .importing _ => by simp [Stmt.WellFormed, Stmt.tighten?]
  | .exporting _ => by simp [Stmt.WellFormed, Stmt.tighten?]
  | .bind .constant _ none => by simp [Stmt.WellFormed, Stmt.tighten?]
  | .bind .constant _ (some e) => by simp [Stmt.WellFormed, Stmt.tighten?, e.wellFormed_iff]
  | .bind (.variable _) _ none => by simp [Stmt.WellFormed, Stmt.tighten?]
  | .bind (.variable _) _ (some e) => by simp [Stmt.WellFormed, Stmt.tighten?, e.wellFormed_iff]
  | .function none _ _ => by simp [Stmt.WellFormed, Stmt.tighten?]
  | .function (some _) _ (.block body) => by simp [Stmt.WellFormed, Stmt.tighten?, wellFormedBlock_iff body]
  | .function (some _) _ (.value _) => by simp [Stmt.WellFormed, Stmt.tighten?]
  | .eval e => by simp [Stmt.WellFormed, Stmt.tighten?, e.wellFormed_iff]
  | .branch test consequent none => by
    simp [Stmt.WellFormed, Stmt.tighten?, test.wellFormed_iff, wellFormedBlock_iff consequent]
  | .branch test consequent (some alternate) => by
    simp [Stmt.WellFormed, Stmt.tighten?, test.wellFormed_iff, wellFormedBlock_iff consequent,
      wellFormedBlock_iff alternate]
  | .leave none => by simp [Stmt.WellFormed, Stmt.tighten?]
  | .leave (some e) => by simp [Stmt.WellFormed, Stmt.tighten?, e.wellFormed_iff]
  | .throw e => by simp [Stmt.WellFormed, Stmt.tighten?, e.wellFormed_iff]

theorem wellFormedBlock_iff : ∀ statements : List Stmt, WellFormedBlock statements ↔
    ∃ xs, tightenBlock? statements = some xs
  | [] => by simp [WellFormedBlock, tightenBlock?]
  | stmt :: rest => by simp [WellFormedBlock, tightenBlock?, stmt.wellFormed_iff, wellFormedBlock_iff rest]

end

/-- What may stand below the top level may stand at the top level. -/
theorem Stmt.WellFormed.item {stmt : Stmt} (h : stmt.WellFormed) : stmt.WellFormedItem := by
  cases stmt with
  | importing _ => trivial
  | exporting _ => exact h.elim
  | _ => exact h

end Loose

theorem wellFormedBlock_loosenBlock (statements : List Stmt) : Loose.WellFormedBlock (loosenBlock statements) :=
  (Loose.wellFormedBlock_iff _).2 ⟨statements, tightenBlock?_loosenBlock statements⟩

theorem Expr.wellFormed_loosen (e : Expr) : e.loosen.WellFormed := (Loose.Expr.wellFormed_iff _).2 ⟨e, e.tighten?_loosen⟩

theorem Stmt.wellFormed_loosen (stmt : Stmt) : stmt.loosen.WellFormed :=
  (Loose.Stmt.wellFormed_iff _).2 ⟨stmt, stmt.tighten?_loosen⟩

theorem Declaration.binds_loosen (d : Declaration) : d.loosen.Binds := by
  cases d with
  | constant name e => trivial
  | function name params body => trivial
  | _ kind name init => cases init <;> trivial

theorem Item.wellFormedItem_loosen (i : Item) : i.loosen.WellFormedItem := by
  cases i with
  | importing i => trivial
  | statement stmt => exact stmt.wellFormed_loosen.item
  | exporting d =>
    cases d with
    | defaultValue e => exact e.wellFormed_loosen
    | defaultFunction name params body => exact wellFormedBlock_loosenBlock body
    | declaration d => exact ⟨d.binds_loosen, (Stmt.declare d).wellFormed_loosen⟩
    | _ => trivial

/-- **A module is a well-formed tree.** -/
theorem Program.wellFormed_loosen (p : Program) : p.loosen.WellFormed := by
  intro stmt hstmt
  obtain ⟨i, -, rfl⟩ := List.mem_map.1 hstmt
  exact i.wellFormedItem_loosen

end Syntax
end ScriptImport
