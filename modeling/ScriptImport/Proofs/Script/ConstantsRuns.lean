/-
# Scripts keep constants

What is recorded of a script whose scopes keep a name final, and that calls only functions whose scopes do, is that
constants of this name last from each store to all later ones: of expressions (`Conducts.eval`), statements
(`Conducts.exec`), functions (`Conducts.runFunction`) and modules (`Conducts.runModule`).  Calls are an induction on how
many of them may be inside one another (`Conducts.callClosure`).
-/

import ScriptImport.Proofs.Script.Constants
import ScriptImport.Proofs.Script.Recorded

namespace ScriptImport
namespace Script

open Syntax

variable {name : String} {f : FrameId} {ds ds' : List Declared}

instance : HasPast Record := ⟨Record.store, Record.past⟩

theorem Lasts.head {t : Store} {moments : List Store} (h : Lasts name (t :: moments)) :
    Lasts name (t :: t :: moments) :=
  List.pairwise_cons.2 ⟨List.forall_mem_cons.2 ⟨.refl t, (List.pairwise_cons.1 h).1⟩, h⟩

/-- What a flow returns. -/
def Flow.Final (name : String) : Flow → Prop
  | .next => True
  | .leave v => v.Final name

theorem Opens.lift {α : Type} {A : FrameId → α → Prop} {x : Run α} (h : Opens name ds A x) :
    Opens name ds A (monadLift x : Recorded α) := by
  intro r hr
  obtain ⟨houtside, hfinal, hresult, moments, hpast, hlast⟩ := h r.store hr
  obtain rfl : moments = [] := (List.append_eq_nil_iff.1 hpast.symm).1
  exact ⟨houtside, hfinal, hresult, [_], rfl, hlast.head⟩

namespace Conducts

variable {α β : Type} {A : α → Prop} {context : ObjectId} {scope outer : Scope}
  {call : Value → List Value → Recorded Value}

theorem lift {x : Run α} (h : Conducts name f ds A x) : Conducts name f ds A (monadLift x : Recorded α) := by
  intro r hr hready
  obtain ⟨hdeclares, hfinal, hresult, moments, hpast, hlast⟩ := h r.store hr hready
  obtain rfl : moments = [] := (List.append_eq_nil_iff.1 hpast.symm).1
  exact ⟨hdeclares, hfinal, hresult, [_], rfl, hlast.head⟩

theorem current : Conducts name f [] (Store.Final name) (monadLift Run.current : Recorded Store) :=
  lift fun s hs _ =>
    ⟨Store.declares_of_frames rfl, hs, fun _ h => Except.ok.inj h ▸ hs, [], rfl, lasts_pair (.refl s)⟩

/-- Calls of functions that keep the name final. -/
def Calls (name : String) (call : Value → List Value → Recorded Value) : Prop :=
  ∀ {f : FrameId} {callee : Value} {args : List Value}, callee.Final name → (∀ v ∈ args, v.Final name) →
    Conducts name f [] (Value.Final name) (call callee args)

/-! ### Expressions -/

theorem final_binary (s : Store) (op : BinaryOp) (a b : Value) : (s.binary op a b).Final name := by
  cases op with
  | add => unfold Store.binary; dsimp only; split <;> exact nofun
  | _ => exact nofun

theorem unary {op : UnaryOp} {e : Expr}
    (he : Conducts name f [] (Value.Final name) (Run.eval call context e scope)) :
    Conducts name f [] (Value.Final name) (Run.eval call context (.unary op e) scope) := by
  cases op with
  | not =>
    simp only [Run.eval]
    exact he.bind fun v _ => .pure (a := Value.bool !v.isTruthy) nofun
  | negate =>
    simp only [Run.eval]
    exact he.bind fun v _ => .pure (a := Value.number (-v.toNumber)) nofun
  | typeof =>
    by_cases hname : ∃ x, e = .name x
    · obtain ⟨x, rfl⟩ := hname
      simp only [Run.eval]
      exact current.bind fun s _ => .pure nofun
    · rw [Simulation.eval_typeof call context (fun x h => hname ⟨x, h⟩)]
      exact he.bind fun v _ => .pure (a := Value.string v.typeName) nofun

mutual

/-- **Expressions** declare nothing in the scope that they are in. -/
theorem eval (hcalls : Calls name call) : ∀ (e : Expr) (scope : Scope), FinalIn name e.scopes →
    ∀ {f : FrameId}, Conducts name f [] (Value.Final name) (Run.eval call context e scope)
  | .number _, _, _, _ => by simp only [Run.eval]; exact .pure nofun
  | .string _, _, _, _ => by simp only [Run.eval]; exact .pure nofun
  | .bool _, _, _, _ => by simp only [Run.eval]; exact .pure nofun
  | .null, _, _, _ => by simp only [Run.eval]; exact .pure nofun
  | .name x, scope, _, _ => by simp only [Run.eval]; exact lift (Run.conducts_readName context scope x)
  | .array items, scope, h, _ => by
    simp only [Run.eval]
    exact (evalList hcalls items scope h).bind fun _ hvs => lift (Run.conducts_newArray hvs)
  | .object entries, scope, h, _ => by
    simp only [Run.eval]
    refine (evalEntries hcalls entries scope h).bind fun es hes => ?_
    have hall : ∀ e ∈ Dict.ofEntries es, e.2.Final name := fun e he =>
      (Dict.mem_or_mem_of_mem_insertAll he).elim (hes e) fun he => absurd he List.not_mem_nil
    exact (lift (Run.conducts_newObject hall)).bind fun o _ => .pure (a := Value.object o) nofun
  | .member e key, scope, h, _ => by
    simp only [Run.eval]
    exact (eval hcalls e scope h).bind fun _ hv => lift (Run.conducts_getProperty hv key)
  | .index e i, scope, h, _ => by
    simp only [Run.eval]
    exact (eval hcalls e scope (FinalIn.append h).1).bind fun _ hv =>
      (eval hcalls i scope (FinalIn.append h).2).bind fun _ _ =>
        current.bind fun _ _ => lift (Run.conducts_getProperty hv _)
  | .call callee args, scope, h, _ => by
    simp only [Run.eval]
    exact (eval hcalls callee scope (FinalIn.append h).1).bind fun _ hf =>
      (evalList hcalls args scope (FinalIn.append h).2).bind fun _ hvs => hcalls hf hvs
  | .function own params body, scope, h, _ => by
    simp only [Run.eval]
    exact lift (Run.conducts_newFunction context scope ⟨own, params, .block body⟩ (FinalIn.append h).2)
  | .arrow params e, scope, h, _ => by
    simp only [Run.eval]
    exact lift (Run.conducts_newClosure context scope ⟨none, params, .value e⟩ h)
  | .unary _ e, scope, h, _ => unary (eval hcalls e scope h)
  | .binary op a b, scope, h, _ => by
    simp only [Run.eval]
    exact (eval hcalls a scope (FinalIn.append h).1).bind fun x _ =>
      (eval hcalls b scope (FinalIn.append h).2).bind fun y _ =>
        current.bind fun s _ => .pure (final_binary s op x y)
  | .logical op a b, scope, h, _ => by
    simp only [Run.eval]
    refine (eval hcalls a scope (FinalIn.append h).1).bind fun x hx => ?_
    split
    · exact .pure hx
    · exact .pure hx
    · exact eval hcalls b scope (FinalIn.append h).2
  | .conditional test a b, scope, h, _ => by
    simp only [Run.eval]
    obtain ⟨htest, hbranches⟩ := FinalIn.append h
    refine (eval hcalls test scope htest).bind fun t _ => ?_
    split
    · exact eval hcalls a scope (FinalIn.append hbranches).1
    · exact eval hcalls b scope (FinalIn.append hbranches).2
  | .assign target e, scope, h, _ => by
    simp only [Run.eval]
    exact (eval hcalls e scope (FinalIn.append h).1).bind fun v hv =>
      (assignTo hcalls target scope (FinalIn.append h).2 hv).bind fun _ _ => .pure hv

/-- Assignments declare nothing. -/
theorem assignTo (hcalls : Calls name call) : ∀ (target : Target) (scope : Scope), FinalIn name target.scopes →
    ∀ {v : Value}, v.Final name → ∀ {f : FrameId},
      Conducts name f [] (fun _ => True) (Run.assignTo call context target v scope)
  | .name x, scope, _, _, hv, _ => by
    simp only [Run.assignTo]
    exact lift (Run.conducts_writeName context scope x hv)
  | .member e key, scope, h, _, hv, _ => by
    simp only [Run.assignTo]
    exact (eval hcalls e scope h).bind fun o _ => lift (Run.conducts_setProperty o key hv)
  | .index e i, scope, h, _, hv, _ => by
    simp only [Run.assignTo]
    exact (eval hcalls e scope (FinalIn.append h).1).bind fun o _ =>
      (eval hcalls i scope (FinalIn.append h).2).bind fun _ _ =>
        current.bind fun _ _ => lift (Run.conducts_setProperty o _ hv)

theorem evalList (hcalls : Calls name call) : ∀ (es : List Expr) (scope : Scope), FinalIn name (scopesOfAll es) →
    ∀ {f : FrameId}, Conducts name f [] (fun vs => ∀ v ∈ vs, v.Final name) (Run.evalList call context es scope)
  | [], _, _, _ => by simp only [Run.evalList]; exact .pure nofun
  | e :: es, scope, h, _ => by
    simp only [Run.evalList]
    exact (eval hcalls e scope (FinalIn.append h).1).bind fun _ hv =>
      (evalList hcalls es scope (FinalIn.append h).2).bind fun _ hvs => .pure (List.forall_mem_cons.2 ⟨hv, hvs⟩)

theorem evalEntries (hcalls : Calls name call) : ∀ (entries : List (String × Expr)) (scope : Scope),
    FinalIn name (scopesOfEntries entries) → ∀ {f : FrameId},
      Conducts name f [] (fun es => ∀ e ∈ es, e.2.Final name) (Run.evalEntries call context entries scope)
  | [], _, _, _ => by simp only [Run.evalEntries]; exact .pure nofun
  | (key, e) :: es, scope, h, _ => by
    simp only [Run.evalEntries]
    exact (eval hcalls e scope (FinalIn.append h).1).bind fun _ hv =>
      (evalEntries hcalls es scope (FinalIn.append h).2).bind fun _ hvs => .pure (List.forall_mem_cons.2 ⟨hv, hvs⟩)

end

/-! ### Statements, functions and modules -/

theorem execDeclaration (hcalls : Calls name call) {declaration : Declaration} (h : FinalIn name declaration.scopes) :
    Conducts name f declaration.declares (fun _ => True)
      (Run.execDeclaration call context (f :: outer) declaration) := by
  have hdeclare {own : String} {e : Expr} (he : FinalIn name e.scopes) (mutable : Bool) :
      Conducts name f [⟨own, !mutable⟩] (fun _ => True)
        (do monadLift (Run.declare (f :: outer) own (← Run.eval call context e (f :: outer)) mutable)) :=
    (eval hcalls e _ he).bind fun _ hv => lift (Run.conducts_declare own hv mutable)
  cases declaration with
  | constant own e => exact hdeclare h false
  | function own params body => exact .pure trivial
  | _ kind own init =>
    cases init with
    | none => exact lift (Run.conducts_declare own (v := .undefined) nofun true)
    | some e => exact hdeclare h true

/-- Statements in a scope of their own declare nothing outside of it. -/
theorem inBlock {statements : List Stmt} {g : Scope → Recorded Flow}
    (h : FinalIn name (blockDeclares statements :: scopesOfBlock statements))
    (hg : ∀ f outer, Conducts name f (statements.flatMap Stmt.declares) (Flow.Final name) (g (f :: outer))) :
    Conducts name f [] (Flow.Final name) (do
      let block ← (monadLift (Run.inner scope) : Recorded Scope)
      let _ ← (monadLift (Run.hoist context block statements) : Recorded Unit)
      g block) := by
  obtain ⟨hown, hinside⟩ := List.forall_mem_cons.1 h
  refine ((Run.opens_inner scope).lift.bind (B := fun _ => Flow.Final name) hown fun f block hblock => ?_).conducts
    fun _ _ hflow => hflow
  subst hblock
  exact (lift (Run.conducts_hoist context scope hinside)).bind fun _ _ => hg f scope

mutual

/-- **Statements** make their declarations in the innermost frame of the scope. -/
theorem exec (hcalls : Calls name call) : ∀ (stmt : Stmt) (outer : Scope), FinalIn name stmt.scopes →
    ∀ {f : FrameId}, Conducts name f stmt.declares (Flow.Final name) (Run.exec call context stmt (f :: outer))
  | .declare declaration, outer, h, _ => by
    simp only [Run.exec]
    exact (execDeclaration hcalls h).andThen fun _ _ => .pure (a := Flow.next) trivial
  | .eval e, outer, h, _ => by
    simp only [Run.exec]
    exact (eval hcalls e _ h).bind fun _ _ => .pure (a := Flow.next) trivial
  | .branch test consequent none, outer, h, _ => by
    simp only [Run.exec]
    obtain ⟨htest, hblock⟩ := FinalIn.append h
    refine (eval hcalls test _ htest).bind fun t _ => ?_
    split
    · exact inBlock hblock fun _ outer => execAll hcalls consequent outer (List.forall_mem_cons.1 hblock).2
    · exact .pure (a := Flow.next) trivial
  | .branch test consequent (some alternate), outer, h, _ => by
    simp only [Run.exec]
    obtain ⟨htest, hblocks⟩ := FinalIn.append h
    obtain ⟨hconsequent, halternate⟩ := FinalIn.append hblocks
    refine (eval hcalls test _ htest).bind fun t _ => ?_
    split
    · exact inBlock hconsequent fun _ outer =>
        execAll hcalls consequent outer (List.forall_mem_cons.1 hconsequent).2
    · exact inBlock halternate fun _ outer => execAll hcalls alternate outer (List.forall_mem_cons.1 halternate).2
  | .leave none, _, _, _ => by simp only [Run.exec]; exact .pure (a := Flow.leave .undefined) nofun
  | .leave (some e), outer, h, _ => by
    simp only [Run.exec]
    exact (eval hcalls e _ h).bind fun v hv => .pure (a := Flow.leave v) hv
  | .throw e, outer, h, _ => by
    simp only [Run.exec]
    exact (eval hcalls e _ h).bind fun v _ => lift (.throw (EvalError.thrown v))

/-- Rows of statements do. -/
theorem execAll (hcalls : Calls name call) : ∀ (statements : List Stmt) (outer : Scope),
    FinalIn name (scopesOfBlock statements) → ∀ {f : FrameId},
      Conducts name f (statements.flatMap Stmt.declares) (Flow.Final name)
        (Run.execAll call context statements (f :: outer))
  | [], _, _, _ => by simp only [Run.execAll]; exact .pure (a := Flow.next) trivial
  | stmt :: rest, outer, h, _ => by
    simp only [Run.execAll]
    refine (exec hcalls stmt outer (FinalIn.append h).1).bind fun flow hflow => ?_
    cases flow with
    | next => exact execAll hcalls rest outer (FinalIn.append h).2
    | leave v => exact .pure (a := Flow.leave v) hflow

end

/-- **Functions** make their declarations in a new scope. -/
theorem runFunction (hcalls : Calls name call) {c : Closure} (hc : FinalIn name c.function.scopes) {args : List Value}
    (hargs : ∀ v ∈ args, v.Final name) :
    Conducts name f [] (Value.Final name) (Run.runFunction call context c args) := by
  obtain ⟨identity, ⟨own, params, body⟩, captured, made, hold⟩ := c
  cases body with
  | value e =>
    obtain ⟨hown, hinside⟩ := List.forall_mem_cons.1 hc
    refine ((Run.opens_openScope hown hargs).lift.bind (B := fun _ => Value.Final name)
      (by rwa [List.append_nil]) fun f scope _ => ?_).conducts fun _ _ hv => hv
    exact eval hcalls e scope hinside
  | block statements =>
    obtain ⟨hown, hinside⟩ := List.forall_mem_cons.1 hc
    -- parameters and block share one scope, in which the parameters come first
    refine ((Run.opens_openScope hown.left hargs).lift.bind (B := fun _ => Value.Final name) hown
      fun f scope hscope => ?_).conducts fun _ _ hv => hv
    subst hscope
    have hblock : Conducts name f (blockDeclares statements) (Flow.Final name)
        (Run.execBlock call context statements (f :: captured)) :=
      (lift (Run.conducts_hoist context captured hinside)).bind fun _ _ => execAll hcalls statements captured hinside
    refine hblock.andThen fun flow hflow => ?_
    cases flow with
    | next => exact .pure (a := Value.undefined) nofun
    | leave v => exact .pure hflow

/-- A call of a value, if calls of functions keep the name final. -/
theorem callWith {closure : Closure → List Value → Recorded Value}
    (hclosure : ∀ {f : FrameId} {c : Closure} {args : List Value}, FinalIn name c.function.scopes →
      (∀ v ∈ args, v.Final name) → Conducts name f [] (Value.Final name) (closure c args)) :
    Calls name (Run.callWith closure) := by
  intro f callee args hcallee hargs
  cases callee with
  | function c => exact hclosure (hcallee _ (List.mem_singleton.2 rfl)) hargs
  | native n => exact lift (Run.conducts_callNative n.operation hargs)
  | _ => exact current.bind fun _ _ => lift (Run.conducts_misuse _)

/-- **Calls** declare nothing in scopes that are there already. -/
theorem callClosure (context : ObjectId) (n : Nat) {c : Closure} (hc : FinalIn name c.function.scopes)
    {args : List Value} (hargs : ∀ v ∈ args, v.Final name) :
    Conducts name f [] (Value.Final name) (Recorded.callClosure context n c args) := by
  induction n generalizing f c args with
  | zero => exact .throw _
  | succ n ih =>
    unfold Recorded.callClosure
    cases c.hold with
    | strong =>
      -- what the body calls may have one call less inside of it
      exact runFunction (callWith fun hc hargs => ih hc hargs) hc hargs
    | weak => exact .throw _

theorem calls (context : ObjectId) : Calls name (Recorded.call context) :=
  callWith fun hc hargs => callClosure context maxCalls hc hargs

theorem callFromOutside {callee : Value} (hcallee : callee.Final name) {args : List Value}
    (hargs : ∀ v ∈ args, v.Final name) :
    Conducts name f [] (Value.Final name) (Recorded.callFromOutside callee args) := by
  have hcalls : Calls name (Run.callWith fun _ _ => MonadExcept.throw EvalError.tooManyCalls) :=
    callWith fun _ _ => .throw _
  cases callee with
  | function c => exact calls c.context hcallee hargs
  | _ => exact hcalls hcallee hargs

theorem hoistItem {item : Item} (h : FinalIn name item.scopes) :
    Conducts name f item.hoists (fun _ => True) (Run.hoistItem context (f :: outer) item) := by
  cases item with
  | importing i => exact .pure trivial
  | statement stmt =>
    cases stmt with
    | declare d => exact Run.conducts_hoistDeclaration context outer h
    | _ => exact .pure trivial
  | exporting e =>
    cases e with
    | declaration d => exact Run.conducts_hoistDeclaration context outer h
    | defaultFunction own params body => exact Run.conducts_hoistDeclaration context outer h
    | _ => exact .pure trivial

theorem hoistItems {items : List Item} (h : FinalIn name (items.flatMap Item.scopes)) :
    Conducts name f (items.flatMap Item.hoists) (fun _ => True) (Run.hoistItems context (f :: outer) items) := by
  unfold Run.hoistItems
  induction items with
  | nil => exact .pure trivial
  | cons item rest ih =>
    exact (hoistItem (FinalIn.append h).1).bind fun _ _ => ih (FinalIn.append h).2

theorem execItem (hcalls : Calls name call) {item : Item} (h : FinalIn name item.scopes) :
    Conducts name f item.declares (Flow.Final name) (Run.execItem call context (f :: outer) item) := by
  cases item with
  | importing i => exact .pure (a := Flow.next) trivial
  | statement stmt => exact exec hcalls stmt outer h
  | exporting e =>
    cases e with
    | declaration d => exact (execDeclaration hcalls h).andThen fun _ _ => .pure (a := Flow.next) trivial
    | defaultValue e =>
      exact (eval hcalls e _ h).bind fun _ hv =>
        (lift (Run.conducts_declare defaultBinding hv false)).andThen fun _ _ => .pure (a := Flow.next) trivial
    | defaultFunction own params body =>
      -- the function itself has been hoisted, only the default binding is left to be made
      refine current.bind fun s hs => ?_
      have hv : ((s.lookup? own (f :: outer)).getD .undefined).Final name := by
        cases hlookup : s.lookup? own (f :: outer) with
        | none => exact nofun
        | some v => exact hs.lookup? hlookup
      exact (lift (Run.conducts_declare defaultBinding hv false)).andThen fun _ _ => .pure (a := Flow.next) trivial
    | _ => exact .pure (a := Flow.next) trivial

theorem execItems (hcalls : Calls name call) {items : List Item} (h : FinalIn name (items.flatMap Item.scopes)) :
    Conducts name f (items.flatMap Item.declares) (fun _ => True)
      (Run.execItems call context (f :: outer) items) := by
  induction items with
  | nil => exact .pure trivial
  | cons item rest ih =>
    refine (execItem hcalls (FinalIn.append h).1).bind fun flow _ => ?_
    cases flow with
    | next => exact ih (FinalIn.append h).2
    | leave v => exact .pure trivial

/-- **Modules** make their declarations in the scope that their imports are bound in. -/
theorem runModule (context : ObjectId) {p : Program} (h : FinalIn name p.scopes) :
    Conducts name f p.declares (fun _ => True) (Recorded.runModule context p (f :: outer)) := by
  have hitems := (List.forall_mem_cons.1 h).2
  exact (lift (hoistItems hitems)).bind fun _ _ => execItems (calls context) hitems

end Conducts
end Script
end ScriptImport
