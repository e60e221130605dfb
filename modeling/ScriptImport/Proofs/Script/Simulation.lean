/-
# Two ways of calling functions

Syntax is run in any monad, given how values are called.  If two monads are related so that one step after
the other keeps the relation, and a plain step relates to itself, then all that syntax does is
related as soon as the calls are: expressions (`Simulation.eval`), statements (`Simulation.exec`), functions
(`Simulation.runFunction`) and whole modules (`Simulation.runModuleWith`).  The induction over the syntax is
done here, once; what is proved about runs of scripts says only how its relation goes through a call.
-/

import ScriptImport.Proofs.Script.Plain

namespace ScriptImport
namespace Script

open Syntax Run

/-- A relation between what is done in two monads that `Run` lifts to. -/
structure Simulation (m₁ m₂ : Type → Type) [Monad m₁] [MonadLiftT Run m₁] [Monad m₂]
    [MonadLiftT Run m₂] where
  Rel : {α : Type} → m₁ α → m₂ α → Prop
  pure : ∀ {α : Type} (a : α), Rel (pure a : m₁ α) (pure a : m₂ α)
  bind : ∀ {α β : Type} {x₁ : m₁ α} {x₂ : m₂ α} {f₁ : α → m₁ β} {f₂ : α → m₂ β},
    Rel x₁ x₂ → (∀ a, Rel (f₁ a) (f₂ a)) → Rel (x₁ >>= f₁) (x₂ >>= f₂)
  lift : ∀ {α : Type} {x : Run α}, Plain x → Rel (monadLift x : m₁ α) (monadLift x : m₂ α)

namespace Simulation

variable {m₁ m₂ : Type → Type} [Monad m₁] [MonadLiftT Run m₁] [Monad m₂] [MonadLiftT Run m₂]

/-- Two ways of calling are related. -/
def Calls (R : Simulation m₁ m₂) (call₁ : Value → List Value → m₁ Value)
    (call₂ : Value → List Value → m₂ Value) : Prop :=
  ∀ callee args, R.Rel (call₁ callee args) (call₂ callee args)

/-- Functions that are no scripts do the same in both monads. -/
class Natives (R : Simulation m₁ m₂) : Prop where
  native : ∀ (operation : Operation) (args : List Value),
    R.Rel (monadLift (callNative operation args) : m₁ Value) (monadLift (callNative operation args) : m₂ Value)

variable {R : Simulation m₁ m₂} {call₁ : Value → List Value → m₁ Value}
  {call₂ : Value → List Value → m₂ Value} {context : ObjectId}

/-- What depends on the store as it is now. -/
theorem bind_current {α : Type} {f₁ : Store → m₁ α} {f₂ : Store → m₂ α}
    (h : ∀ s, R.Rel (f₁ s) (f₂ s)) :
    R.Rel ((monadLift current : m₁ Store) >>= f₁) ((monadLift current : m₂ Store) >>= f₂) :=
  R.bind (R.lift raises_get) h

/-! ### Expressions -/

/-- `typeof` asks what its operand is, unless that is a name, which may have no value. -/
theorem eval_typeof {m : Type → Type} [Monad m] [MonadLiftT Run m] (call : Value → List Value → m Value)
    (context : ObjectId) {e : Expr} (he : ∀ x, e ≠ .name x) (scope : Scope) :
    Run.eval call context (.unary .typeof e) scope
      = do return .string (← Run.eval call context e scope).typeName := by
  rw [Run.eval]
  exact fun x _ h => he x h

theorem unary {op : UnaryOp} {e : Expr} {scope : Scope}
    (he : R.Rel (Run.eval call₁ context e scope) (Run.eval call₂ context e scope)) :
    R.Rel (Run.eval call₁ context (.unary op e) scope) (Run.eval call₂ context (.unary op e) scope) := by
  cases op with
  | not => simp only [Run.eval]; exact R.bind he fun _ => R.pure _
  | negate => simp only [Run.eval]; exact R.bind he fun _ => R.pure _
  | typeof =>
    by_cases hname : ∃ x, e = .name x
    · obtain ⟨x, rfl⟩ := hname
      simp only [Run.eval]
      exact bind_current fun _ => R.pure _
    · have hne : ∀ x, e ≠ .name x := fun x h => hname ⟨x, h⟩
      rw [eval_typeof call₁ context hne, eval_typeof call₂ context hne]
      exact R.bind he fun _ => R.pure _

mutual

/-- **Expressions** do the same if calls do. -/
theorem eval (h : R.Calls call₁ call₂) : ∀ (e : Expr) (scope : Scope),
    R.Rel (Run.eval call₁ context e scope) (Run.eval call₂ context e scope)
  | .number _, _ => by simp only [Run.eval]; exact R.pure _
  | .string _, _ => by simp only [Run.eval]; exact R.pure _
  | .bool _, _ => by simp only [Run.eval]; exact R.pure _
  | .null, _ => by simp only [Run.eval]; exact R.pure _
  | .name x, scope => by simp only [Run.eval]; exact R.lift (plain_readName context scope x)
  | .array items, scope => by
    simp only [Run.eval]
    exact R.bind (evalList h items scope) fun _ => R.lift (raises_modifyGet _)
  | .object entries, scope => by
    simp only [Run.eval]
    exact R.bind (evalEntries h entries scope) fun _ =>
      R.bind (R.lift (raises_modifyGet _)) fun _ => R.pure _
  | .member e key, scope => by
    simp only [Run.eval]
    exact R.bind (eval h e scope) fun v => R.lift (plain_getProperty v key)
  | .index e i, scope => by
    simp only [Run.eval]
    exact R.bind (eval h e scope) fun v => R.bind (eval h i scope) fun k =>
      bind_current fun s => R.lift (plain_getProperty v (s.key k))
  | .call callee args, scope => by
    simp only [Run.eval]
    exact R.bind (eval h callee scope) fun f => R.bind (evalList h args scope) fun vs => h f vs
  | .function _ _ _, scope => by simp only [Run.eval]; exact R.lift (plain_newFunction context scope _)
  | .arrow _ _, scope => by simp only [Run.eval]; exact R.lift (plain_newClosure context scope _)
  | .unary _ e, scope => unary (eval h e scope)
  | .binary op a b, scope => by
    simp only [Run.eval]
    exact R.bind (eval h a scope) fun _ => R.bind (eval h b scope) fun _ => bind_current fun _ => R.pure _
  | .logical op a b, scope => by
    simp only [Run.eval]
    refine R.bind (eval h a scope) fun x => ?_
    split
    · exact R.pure _
    · exact R.pure _
    · exact eval h b scope
  | .conditional test a b, scope => by
    simp only [Run.eval]
    refine R.bind (eval h test scope) fun t => ?_
    split
    · exact eval h a scope
    · exact eval h b scope
  | .assign target e, scope => by
    simp only [Run.eval]
    exact R.bind (eval h e scope) fun v => R.bind (assignTo h target v scope) fun _ => R.pure _

/-- Assignments do the same if calls do. -/
theorem assignTo (h : R.Calls call₁ call₂) : ∀ (target : Target) (v : Value) (scope : Scope),
    R.Rel (Run.assignTo call₁ context target v scope) (Run.assignTo call₂ context target v scope)
  | .name x, v, scope => by simp only [Run.assignTo]; exact R.lift (plain_writeName context scope x v)
  | .member e key, v, scope => by
    simp only [Run.assignTo]
    exact R.bind (eval h e scope) fun o => R.lift (plain_setProperty o key v)
  | .index e i, v, scope => by
    simp only [Run.assignTo]
    exact R.bind (eval h e scope) fun o => R.bind (eval h i scope) fun k =>
      bind_current fun s => R.lift (plain_setProperty o (s.key k) v)

/-- Rows of expressions do the same if calls do. -/
theorem evalList (h : R.Calls call₁ call₂) : ∀ (es : List Expr) (scope : Scope),
    R.Rel (Run.evalList call₁ context es scope) (Run.evalList call₂ context es scope)
  | [], _ => by simp only [Run.evalList]; exact R.pure _
  | e :: es, scope => by
    simp only [Run.evalList]
    exact R.bind (eval h e scope) fun _ => R.bind (evalList h es scope) fun _ => R.pure _

/-- Object literals do the same if calls do. -/
theorem evalEntries (h : R.Calls call₁ call₂) : ∀ (entries : List (String × Expr)) (scope : Scope),
    R.Rel (Run.evalEntries call₁ context entries scope) (Run.evalEntries call₂ context entries scope)
  | [], _ => by simp only [Run.evalEntries]; exact R.pure _
  | (_, e) :: es, scope => by
    simp only [Run.evalEntries]
    exact R.bind (eval h e scope) fun _ => R.bind (evalEntries h es scope) fun _ => R.pure _

end

/-! ### Statements, functions and modules -/

theorem execDeclaration (h : R.Calls call₁ call₂) (scope : Scope) (d : Declaration) :
    R.Rel (Run.execDeclaration call₁ context scope d) (Run.execDeclaration call₂ context scope d) := by
  cases d with
  | constant name e =>
    exact R.bind (eval h e scope) fun v => R.lift (plain_declare scope name v false)
  | function name params body => exact R.pure _
  | _ kind name init =>
    cases init with
    | none => exact R.lift (plain_declare scope name .undefined true)
    | some e => exact R.bind (eval h e scope) fun v => R.lift (plain_declare scope name v true)

/-- Statements in a scope of their own. -/
theorem inBlock {statements : List Stmt} {f₁ : Scope → m₁ Flow} {f₂ : Scope → m₂ Flow}
    (hf : ∀ block, R.Rel (f₁ block) (f₂ block)) (scope : Scope) :
    R.Rel
      (do
        let block ← (monadLift (inner scope) : m₁ Scope)
        let _ ← (monadLift (hoist context block statements) : m₁ Unit)
        f₁ block)
      (do
        let block ← (monadLift (inner scope) : m₂ Scope)
        let _ ← (monadLift (hoist context block statements) : m₂ Unit)
        f₂ block) :=
  R.bind (R.lift (plain_inner scope)) fun block =>
    R.bind (R.lift (plain_hoist context block statements)) fun _ => hf block

mutual

/-- **Statements** do the same if calls do. -/
theorem exec (h : R.Calls call₁ call₂) : ∀ (stmt : Stmt) (scope : Scope),
    R.Rel (Run.exec call₁ context stmt scope) (Run.exec call₂ context stmt scope)
  | .declare d, scope => by
    simp only [Run.exec]
    exact R.bind (execDeclaration h scope d) fun _ => R.pure _
  | .eval e, scope => by
    simp only [Run.exec]
    exact R.bind (eval h e scope) fun _ => R.pure _
  | .branch test consequent none, scope => by
    simp only [Run.exec]
    refine R.bind (eval h test scope) fun t => ?_
    split
    · exact inBlock (fun block => execAll h consequent block) scope
    · exact R.pure _
  | .branch test consequent (some alternate), scope => by
    simp only [Run.exec]
    refine R.bind (eval h test scope) fun t => ?_
    split
    · exact inBlock (fun block => execAll h consequent block) scope
    · exact inBlock (fun block => execAll h alternate block) scope
  | .leave none, _ => by simp only [Run.exec]; exact R.pure _
  | .leave (some e), scope => by
    simp only [Run.exec]
    exact R.bind (eval h e scope) fun _ => R.pure _
  | .throw e, scope => by
    simp only [Run.exec]
    exact R.bind (eval h e scope) fun _ => R.lift (raises_throw (.thrown _))

/-- Rows of statements do the same if calls do. -/
theorem execAll (h : R.Calls call₁ call₂) : ∀ (statements : List Stmt) (scope : Scope),
    R.Rel (Run.execAll call₁ context statements scope) (Run.execAll call₂ context statements scope)
  | [], _ => by simp only [Run.execAll]; exact R.pure _
  | stmt :: rest, scope => by
    simp only [Run.execAll]
    refine R.bind (exec h stmt scope) fun flow => ?_
    cases flow with
    | next => exact execAll h rest scope
    | leave v => exact R.pure _

end

/-- **Functions** do the same if calls do. -/
theorem runFunction (h : R.Calls call₁ call₂) (c : Closure) (args : List Value) :
    R.Rel (Run.runFunction call₁ context c args) (Run.runFunction call₂ context c args) := by
  refine R.bind (R.lift (plain_openScope c args)) fun scope => ?_
  cases c.function.body with
  | value e => exact eval h e scope
  | block statements =>
    have hblock : R.Rel (execBlock call₁ context statements scope) (execBlock call₂ context statements scope) :=
      R.bind (R.lift (plain_hoist context scope statements)) fun _ => execAll h statements scope
    refine R.bind hblock fun flow => ?_
    cases flow <;> exact R.pure _

/-- Calls are related if those of functions are. -/
theorem callWith [R.Natives] {closure₁ : Closure → List Value → m₁ Value} {closure₂ : Closure → List Value → m₂ Value}
    (h : ∀ c args, R.Rel (closure₁ c args) (closure₂ c args)) :
    R.Calls (Run.callWith closure₁) (Run.callWith closure₂) := by
  intro callee args
  cases callee with
  | function c => exact h c args
  | native n => exact Natives.native n.operation args
  | _ => exact bind_current fun s => R.lift (plain_misuse _)

theorem execItem (h : R.Calls call₁ call₂) (scope : Scope) (i : Item) :
    R.Rel (Run.execItem call₁ context scope i) (Run.execItem call₂ context scope i) := by
  cases i with
  | importing declaration => exact R.pure _
  | statement stmt => exact exec h stmt scope
  | exporting declaration =>
    cases declaration with
    | defaultValue e =>
      exact R.bind (eval h e scope) fun v =>
        R.bind (R.lift (plain_declare scope defaultBinding v false)) fun _ => R.pure _
    | defaultFunction name params body =>
      exact bind_current fun s => R.bind (R.lift (plain_declare scope defaultBinding _ false)) fun _ =>
        R.pure _
    | declaration d => exact R.bind (execDeclaration h scope d) fun _ => R.pure _
    | _ => exact R.pure _

theorem execItems (h : R.Calls call₁ call₂) (scope : Scope) (items : List Item) :
    R.Rel (Run.execItems call₁ context scope items) (Run.execItems call₂ context scope items) := by
  induction items with
  | nil => exact R.pure _
  | cons i rest ih =>
    refine R.bind (execItem h scope i) fun flow => ?_
    cases flow with
    | next => exact ih
    | leave v => exact R.pure _

/-- **Modules** do the same if calls do. -/
theorem runModuleWith (h : R.Calls call₁ call₂) (p : Program) (scope : Scope) :
    R.Rel (Run.runModuleWith call₁ context p scope) (Run.runModuleWith call₂ context p scope) :=
  R.bind (R.lift (plain_hoistItems context scope p.body)) fun _ => execItems h scope p.body

end Simulation
end Script
end ScriptImport
