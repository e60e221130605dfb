/-
# The syntax tree of a module

A module is a row of items: imports, exports and statements.  The types leave no room for trees that
no source has: imports and exports are items and no statements, a constant has an initial value, a
declared function has a name, a function whose body is an expression has none, and only names, members
and indexed elements can be assigned to.

`Program.requests` lists the modules a program asks for, `Program.declared` the names it exports by
itself; names that come from `export * from` are known only once the other module has run.
-/

namespace ScriptImport
namespace Syntax

/-- Operators before an operand. -/
inductive UnaryOp where
  | not | negate | typeof
  deriving Repr, DecidableEq

/-- Operators that always take both operands. -/
inductive BinaryOp where
  | add | sub | mul | div | rem
  | equal | notEqual | strictEqual | strictNotEqual
  | less | lessEqual | greater | greaterEqual
  deriving Repr, DecidableEq

/-- Operators that take their second operand only if they need it. -/
inductive LogicalOp where
  | and | or
  deriving Repr, DecidableEq

/-- The two kinds of bindings that can change. -/
inductive VariableKind where
  | letWord | varWord
  deriving Repr, DecidableEq

mutual

/-- Expressions. -/
inductive Expr where
  | number (value : Float)
  | string (value : String)
  | bool (value : Bool)
  | null
  | name (name : String)
  | array (items : List Expr)
  | object (entries : List (String × Expr))
  | member (object : Expr) (property : String)
  | index (object : Expr) (index : Expr)
  | call (callee : Expr) (args : List Expr)
  | function (name : Option String) (params : List String) (body : List Stmt)
  | arrow (params : List String) (value : Expr)
  | unary (op : UnaryOp) (operand : Expr)
  | binary (op : BinaryOp) (left right : Expr)
  | logical (op : LogicalOp) (left right : Expr)
  | conditional (test consequent alternate : Expr)
  | assign (target : Target) (value : Expr)

/-- What can be assigned to. -/
inductive Target where
  | name (name : String)
  | member (object : Expr) (property : String)
  | index (object : Expr) (index : Expr)

/-- Statements that bind a name. -/
inductive Declaration where
  | constant (name : String) (init : Expr)
  | variable (kind : VariableKind) (name : String) (init : Option Expr)
  | function (name : String) (params : List String) (body : List Stmt)

/-- Statements. -/
inductive Stmt where
  | declare (declaration : Declaration)
  | eval (expr : Expr)
  | branch (test : Expr) (consequent : List Stmt) (alternate : Option (List Stmt))
  | leave (value : Option Expr)
  | throw (value : Expr)

end

deriving instance Inhabited for Expr
deriving instance Inhabited for Stmt

/-- What a function does: statements, or one expression that is its result. -/
inductive Body where
  | block (statements : List Stmt)
  | value (expr : Expr)

/-- A function as it is written. -/
structure Function where
  name : Option String
  params : List String
  body : Body

/-- `imported as localName`. -/
structure ImportName where
  imported : String
  localName : String
  deriving Repr, DecidableEq

/-- What an import binds besides the default export: all exports as one value, or some of them. -/
inductive ImportNames where
  | everything (localName : String)
  | some (names : List ImportName)
  deriving Repr, DecidableEq

/-- `import … from source`. -/
structure Import where
  source : String
  defaultName : Option String
  names : ImportNames
  deriving Repr, DecidableEq

/-- `localName as exported`. -/
structure ExportName where
  localName : String
  exported : String
  deriving Repr, DecidableEq

/-- Export declarations. -/
inductive Export where
  | defaultValue (value : Expr)
  | defaultFunction (name : String) (params : List String) (body : List Stmt)
  | declaration (declaration : Declaration)
  | names (names : List ExportName)
  | namesFrom (names : List ExportName) (source : String)
  | allFrom (source : String)

/-- What stands at the top level of a module. -/
inductive Item where
  | importing (declaration : Import)
  | exporting (declaration : Export)
  | statement (statement : Stmt)

/-- A module. -/
structure Program where
  body : List Item

/-- The name that a declaration binds. -/
def Declaration.name : Declaration → String
  | .constant name _ => name
  | .variable _ name _ => name
  | .function name _ _ => name

/-- The module that an item asks for. -/
def Item.request? : Item → Option String
  | .importing i => some i.source
  | .exporting (.namesFrom _ source) => some source
  | .exporting (.allFrom source) => some source
  | _ => none

/-- The names that an item exports by itself. -/
def Item.declared : Item → List String
  | .exporting (.defaultValue _) => ["default"]
  | .exporting (.defaultFunction ..) => ["default"]
  | .exporting (.declaration d) => [d.name]
  | .exporting (.names ns) => ns.map (·.exported)
  | .exporting (.namesFrom ns _) => ns.map (·.exported)
  | _ => []

/-- A list without the later ones of equal members, after the members of `seen`. -/
def distinctAfter (seen : List String) : List String → List String
  | [] => []
  | x :: xs => if x ∈ seen then distinctAfter seen xs else x :: distinctAfter (x :: seen) xs

/-- A list without the later ones of equal members. -/
def distinct (xs : List String) : List String := distinctAfter [] xs

/-- The modules that a program asks for, each once, in the order of the source. -/
def Program.requests (p : Program) : List String := distinct (p.body.filterMap Item.request?)

/-- The names that a program exports by itself, in the order of the source. -/
def Program.declared (p : Program) : List String := p.body.flatMap Item.declared

/-- The expression that reads what the target assigns. -/
def Target.expr : Target → Expr
  | .name x => .name x
  | .member e x => .member e x
  | .index e i => .index e i

/-- The target that an expression is, if it can be assigned to. -/
def Expr.target? : Expr → Option Target
  | .name x => some (.name x)
  | .member e x => some (.member e x)
  | .index e i => some (.index e i)
  | _ => none

theorem Target.target?_expr (t : Target) : t.expr.target? = some t := by cases t <;> rfl

/-- An expression is the one that reads the target that it is. -/
theorem Expr.eq_expr_of_target? {e : Expr} {t : Target} (h : e.target? = some t) : t.expr = e := by
  cases e <;> cases h <;> rfl

end Syntax
end ScriptImport
