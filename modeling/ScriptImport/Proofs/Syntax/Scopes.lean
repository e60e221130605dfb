/-
# The scopes of code

A module, a function and a block of statements have scopes of their own; a function that has a name and is no statement
has one more, for its name.  `Expr.scopes` lists the scopes of all code in an expression, and of each of them the names
that are declared in it, in the order in which this happens: first parameters or imports, then the functions among the
statements, then constants and variables one by one.

Nothing keeps code from declaring a name again after it has been declared as a constant.  A name is final in a scope if
this does not happen there.
-/

import ScriptImport.Script.Eval

namespace ScriptImport
namespace Syntax

/-- A name that is declared, and whether as a constant. -/
structure Declared where
  name : String
  constant : Bool
  deriving Repr, DecidableEq

/-! ### Declarations -/

/-- What is declared before the first statement runs. -/
def Declaration.hoists : Declaration → List Declared
  | .function name _ _ => [⟨name, false⟩]
  | _ => []

/-- What is declared when the declaration runs. -/
def Declaration.declares : Declaration → List Declared
  | .constant name _ => [⟨name, true⟩]
  | .variable _ name _ => [⟨name, false⟩]
  | .function .. => []

def Stmt.hoists : Stmt → List Declared
  | .declare d => d.hoists
  | _ => []

def Stmt.declares : Stmt → List Declared
  | .declare d => d.declares
  | _ => []

/-- What is declared in the scope of a block. -/
def blockDeclares (statements : List Stmt) : List Declared :=
  statements.flatMap Stmt.hoists ++ statements.flatMap Stmt.declares

def paramDeclares (params : List String) : List Declared := params.map fun name => ⟨name, false⟩

def Item.hoists : Item → List Declared
  | .statement stmt => stmt.hoists
  | .exporting (.declaration d) => d.hoists
  | .exporting (.defaultFunction name _ _) => [⟨name, false⟩]
  | _ => []

def Item.declares : Item → List Declared
  | .statement stmt => stmt.declares
  | .exporting (.declaration d) => d.declares
  | .exporting (.defaultValue _) => [⟨Script.defaultBinding, true⟩]
  | .exporting (.defaultFunction ..) => [⟨Script.defaultBinding, true⟩]
  | _ => []

def ImportNames.declares : ImportNames → List Declared
  | .everything name => [⟨name, true⟩]
  | .some names => names.map fun n => ⟨n.localName, true⟩

def Import.declares (i : Import) : List Declared :=
  i.defaultName.toList.map (fun name => ⟨name, true⟩) ++ i.names.declares

/-- The names that an item imports. -/
def Item.imports : Item → List Declared
  | .importing i => i.declares
  | _ => []

/-- The names that a program imports. -/
def Program.imports (p : Program) : List Declared := p.body.flatMap Item.imports

/-- What the body of a program declares in the scope of the module. -/
def Program.declares (p : Program) : List Declared := p.body.flatMap Item.hoists ++ p.body.flatMap Item.declares

/-! ### Scopes -/

mutual

/-- What is declared in each of the scopes of an expression. -/
def Expr.scopes : Expr → List (List Declared)
  | .number _ => []
  | .string _ => []
  | .bool _ => []
  | .null => []
  | .name _ => []
  | .array items => scopesOfAll items
  | .object entries => scopesOfEntries entries
  | .member e _ => e.scopes
  | .index e i => e.scopes ++ i.scopes
  | .call callee args => callee.scopes ++ scopesOfAll args
  | .function name params body =>
    name.toList.map (fun name => [⟨name, true⟩]) ++
      (paramDeclares params ++ blockDeclares body) :: scopesOfBlock body
  | .arrow params e => paramDeclares params :: e.scopes
  | .unary _ e => e.scopes
  | .binary _ a b => a.scopes ++ b.scopes
  | .logical _ a b => a.scopes ++ b.scopes
  | .conditional test a b => test.scopes ++ (a.scopes ++ b.scopes)
  | .assign target e => e.scopes ++ target.scopes

def Target.scopes : Target → List (List Declared)
  | .name _ => []
  | .member e _ => e.scopes
  | .index e i => e.scopes ++ i.scopes

def scopesOfAll : List Expr → List (List Declared)
  | [] => []
  | e :: es => e.scopes ++ scopesOfAll es

def scopesOfEntries : List (String × Expr) → List (List Declared)
  | [] => []
  | (_, e) :: es => e.scopes ++ scopesOfEntries es

def Declaration.scopes : Declaration → List (List Declared)
  | .constant _ e => e.scopes
  | .variable _ _ none => []
  | .variable _ _ (some e) => e.scopes
  | .function _ params body => (paramDeclares params ++ blockDeclares body) :: scopesOfBlock body

def Stmt.scopes : Stmt → List (List Declared)
  | .declare d => d.scopes
  | .eval e => e.scopes
  | .branch test consequent none => test.scopes ++ blockDeclares consequent :: scopesOfBlock consequent
  | .branch test consequent (some alternate) =>
    test.scopes ++ (blockDeclares consequent :: scopesOfBlock consequent ++
      blockDeclares alternate :: scopesOfBlock alternate)
  | .leave none => []
  | .leave (some e) => e.scopes
  | .throw e => e.scopes

/-- What is declared in each of the scopes inside of a block, without the block itself. -/
def scopesOfBlock : List Stmt → List (List Declared)
  | [] => []
  | stmt :: rest => stmt.scopes ++ scopesOfBlock rest

end

/-- What is declared in each of the scopes of a function, its own one first. -/
def Function.scopes : Function → List (List Declared)
  | ⟨_, params, .block statements⟩ => (paramDeclares params ++ blockDeclares statements) :: scopesOfBlock statements
  | ⟨_, params, .value e⟩ => paramDeclares params :: e.scopes

def Item.scopes : Item → List (List Declared)
  | .statement stmt => stmt.scopes
  | .exporting (.declaration d) => d.scopes
  | .exporting (.defaultValue e) => e.scopes
  | .exporting (.defaultFunction name params body) => (Declaration.function name params body).scopes
  | _ => []

/-- What is declared in each of the scopes of a program, that of the module first. -/
def Program.scopes (p : Program) : List (List Declared) := (p.imports ++ p.declares) :: p.body.flatMap Item.scopes

/-! ### Final names -/

variable {name : String} {ds ds' : List Declared}

/-- After a constant of this name has been declared, the name is not declared again. -/
def Final (name : String) (ds : List Declared) : Prop :=
  ds.Pairwise fun d later => d = ⟨name, true⟩ → later.name ≠ name

instance (name : String) (ds : List Declared) : Decidable (Final name ds) :=
  inferInstanceAs (Decidable (List.Pairwise _ _))

/-- The name is final in all of some scopes. -/
abbrev FinalIn (name : String) (scopes : List (List Declared)) : Prop := ∀ ds ∈ scopes, Final name ds

theorem Final.left (h : Final name (ds ++ ds')) : Final name ds := (List.pairwise_append.1 h).1

theorem Final.right (h : Final name (ds ++ ds')) : Final name ds' := (List.pairwise_append.1 h).2.1

theorem Final.apart (h : Final name (ds ++ ds')) (hd : ⟨name, true⟩ ∈ ds) : ∀ d ∈ ds', d.name ≠ name := fun d hd' =>
  (List.pairwise_append.1 h).2.2 _ hd d hd' rfl

theorem FinalIn.append {scopes scopes' : List (List Declared)} (h : FinalIn name (scopes ++ scopes')) :
    FinalIn name scopes ∧ FinalIn name scopes' := List.forall_mem_append.1 h

end Syntax
end ScriptImport
