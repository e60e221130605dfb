/-
# Scripts keep what is held

Syntax is run in any monad.  What can be said of steps that keep what is held, and of one step after the other, can be
said of all that syntax does, as soon as it can be said of calls: of expressions (`Keeping.eval`), statements
(`Keeping.exec`), functions (`Keeping.runFunction`) and modules (`Keeping.runModuleWith`).  The induction over the
syntax is done here, once.

First of all it can be said that it keeps what is held.  So calls do (`Run.keeps_call`), by induction on how many of
them may be inside one another, and modules do (`Run.keeps_runModule`).
-/

import ScriptImport.Proofs.Script.Keeps
import ScriptImport.Proofs.Script.Simulation

namespace ScriptImport

open Script

abbrev Grip.flow : Grip Flow where
  Held kept
    | .next => True
    | .leave v => v.Held kept
  mono {_ _ flow} h hflow := by
    cases flow with
    | next => trivial
    | leave v => exact Value.Held.mono h hflow

namespace Script

open Syntax Run

variable {gone : Thing → Bool} {kept kept' : Set Thing} {context : ObjectId} {scope : Scope}

/-- The context and the scope that code runs in are kept. -/
structure Stands (kept : Set Thing) (context : ObjectId) (scope : Scope) : Prop where
  context : .object context ∈ kept
  scope : Scope.Held kept scope

theorem Stands.mono (h : Stands kept context scope) (hkept : kept ⊆ kept') : Stands kept' context scope :=
  ⟨hkept h.context, h.scope.mono hkept⟩

/-- What can be said of steps in a monad that `Run` lifts to: it can be said of steps of scripts that keep what is held,
and of one step after the other. -/
structure Keeping (gone : Thing → Bool) (m : Type → Type) [Monad m] [MonadLiftT Run m] where
  Of : {α : Type} → Grip α → Set Thing → m α → Prop
  pure : ∀ {α : Type} {K : Grip α} {kept : Set Thing} {a : α}, K.Held kept a → Of K kept (pure a)
  bind : ∀ {α β : Type} {K : Grip α} {L : Grip β} {kept : Set Thing} {x : m α} {f : α → m β}, Of K kept x →
    (∀ (kept' : Set Thing) (a : α), kept ⊆ kept' → K.Held kept' a → Of L kept' (f a)) → Of L kept (x >>= f)
  lift : ∀ {α : Type} {K : Grip α} {kept : Set Thing} {x : Run α}, Keeps gone K kept x → Of K kept (monadLift x)
  /-- What depends on the store as it is, but not on what is gone. -/
  current : ∀ {α : Type} {K : Grip α} {kept : Set Thing} {f : Store → m α},
    (∀ s : Store, s.Sound gone → kept ⊆ s.live gone → f (s.free gone) = f s ∧ Of K (s.live gone) (f s)) →
      Of K kept ((monadLift Run.current : m Store) >>= f)

namespace Keeping

variable {m : Type → Type} [Monad m] [MonadLiftT Run m] {R : Keeping gone m} {call : Value → List Value → m Value}

/-- It can be said of calls from code that runs in `context`. -/
def Calls (R : Keeping gone m) (context : ObjectId) (call : Value → List Value → m Value) : Prop :=
  ∀ {kept : Set Thing} {callee : Value} {args : List Value}, .object context ∈ kept → callee.Held kept →
    (∀ v ∈ args, v.Held kept) → R.Of .value kept (call callee args)

/-! ### Expressions -/

/-- What depends on the store for the key that a value is. -/
theorem bind_key {α : Type} {K : Grip α} {f : String → m α} {v : Value} (hv : v.Held kept)
    (h : ∀ {kept' : Set Thing} (key : String), kept ⊆ kept' → R.Of K kept' (f key)) :
    R.Of K kept (do f ((← (monadLift Run.current : m Store)).key v)) :=
  R.current fun _ hs hsub => ⟨congrArg f (Store.display_free hs (hv.mono hsub)), h _ hsub⟩

theorem unary {op : UnaryOp} {e : Expr} (hstands : Stands kept context scope)
    (he : R.Of .value kept (Run.eval call context e scope)) :
    R.Of .value kept (Run.eval call context (.unary op e) scope) := by
  cases op with
  | not =>
    simp only [Run.eval]
    exact R.bind he fun _ v _ _ => R.pure (a := Value.bool !v.isTruthy) trivial
  | negate =>
    simp only [Run.eval]
    exact R.bind he fun _ v _ _ => R.pure (a := Value.number (-v.toNumber)) trivial
  | typeof =>
    by_cases hname : ∃ x, e = .name x
    · obtain ⟨x, rfl⟩ := hname
      simp only [Run.eval]
      refine R.current fun s hs hsub => ⟨?_, R.pure trivial⟩
      rw [Store.resolve?_free (hsub hstands.context).2 (not_gone_of_held hstands.scope hsub)]
    · rw [Simulation.eval_typeof call context (fun x h => hname ⟨x, h⟩)]
      exact R.bind he fun _ v _ _ => R.pure (a := Value.string v.typeName) trivial

mutual

/-- It can be said of **expressions**. -/
theorem eval (h : R.Calls context call) : ∀ (e : Expr) (scope : Scope) {kept : Set Thing},
    Stands kept context scope → R.Of .value kept (Run.eval call context e scope)
  | .number _, _, _, _ => by simp only [Run.eval]; exact R.pure trivial
  | .string _, _, _, _ => by simp only [Run.eval]; exact R.pure trivial
  | .bool _, _, _, _ => by simp only [Run.eval]; exact R.pure trivial
  | .null, _, _, _ => by simp only [Run.eval]; exact R.pure trivial
  | .name x, _, _, hstands => by simp only [Run.eval]; exact R.lift (keeps_readName hstands.context hstands.scope x)
  | .array items, scope, _, hstands => by
    simp only [Run.eval]
    exact R.bind (evalList h items scope hstands) fun _ _ _ hvs => R.lift (keeps_newArray hvs)
  | .object entries, scope, _, hstands => by
    simp only [Run.eval]
    refine R.bind (evalEntries h entries scope hstands) fun _ es _ hes => ?_
    have hall : ∀ e ∈ Dict.ofEntries es, e.2.Held _ := fun e he =>
      (Dict.mem_or_mem_of_mem_insertAll he).elim (hes e) fun he => absurd he List.not_mem_nil
    exact R.bind (R.lift (keeps_newObject hall)) fun _ o _ ho => R.pure (a := Value.object o) ho
  | .member e key, scope, _, hstands => by
    simp only [Run.eval]
    exact R.bind (eval h e scope hstands) fun _ _ _ hv => R.lift (keeps_getProperty hv key)
  | .index e i, scope, _, hstands => by
    simp only [Run.eval]
    refine R.bind (eval h e scope hstands) fun _ v hkept₁ hv => ?_
    refine R.bind (eval h i scope (hstands.mono hkept₁)) fun _ k hkept₂ hk => ?_
    exact bind_key hk fun key hkept₃ => R.lift (keeps_getProperty (hv.mono (hkept₂.trans hkept₃)) key)
  | .call callee args, scope, _, hstands => by
    simp only [Run.eval]
    refine R.bind (eval h callee scope hstands) fun _ f hkept₁ hf => ?_
    exact R.bind (evalList h args scope (hstands.mono hkept₁)) fun _ vs hkept₂ hvs =>
      h (hkept₂ (hkept₁ hstands.context)) (hf.mono hkept₂) hvs
  | .function _ _ _, _, _, hstands => by
    simp only [Run.eval]
    exact R.lift (keeps_newFunction hstands.context hstands.scope _)
  | .arrow _ _, _, _, hstands => by
    simp only [Run.eval]
    exact R.lift (keeps_newClosure hstands.context hstands.scope _)
  | .unary _ e, scope, _, hstands => unary hstands (eval h e scope hstands)
  | .binary op a b, scope, _, hstands => by
    simp only [Run.eval]
    refine R.bind (eval h a scope hstands) fun _ x hkept₁ hx => ?_
    refine R.bind (eval h b scope (hstands.mono hkept₁)) fun _ y hkept₂ hy => R.current fun s hs hsub => ?_
    have hsame := Store.binary_free hs op (hx.mono (hkept₂.trans hsub)) (hy.mono hsub)
    exact ⟨congrArg Pure.pure hsame, R.pure (Store.binary_held s op x y)⟩
  | .logical op a b, scope, _, hstands => by
    simp only [Run.eval]
    refine R.bind (eval h a scope hstands) fun _ x hkept hx => ?_
    split
    · exact R.pure hx
    · exact R.pure hx
    · exact eval h b scope (hstands.mono hkept)
  | .conditional test a b, scope, _, hstands => by
    simp only [Run.eval]
    refine R.bind (eval h test scope hstands) fun _ t hkept _ => ?_
    split
    · exact eval h a scope (hstands.mono hkept)
    · exact eval h b scope (hstands.mono hkept)
  | .assign target e, scope, _, hstands => by
    simp only [Run.eval]
    refine R.bind (eval h e scope hstands) fun _ v hkept₁ hv => ?_
    exact R.bind (assignTo h target scope (hstands.mono hkept₁) hv) fun _ _ hkept₂ _ => R.pure (hv.mono hkept₂)

/-- It can be said of assignments. -/
theorem assignTo (h : R.Calls context call) :
    ∀ (target : Target) (scope : Scope) {kept : Set Thing}, Stands kept context scope → ∀ {v : Value}, v.Held kept →
      R.Of (.any Unit) kept (Run.assignTo call context target v scope)
  | .name x, _, _, hstands, _, hv => by
    simp only [Run.assignTo]
    exact R.lift (keeps_writeName hstands.context hstands.scope x hv)
  | .member e key, scope, _, hstands, _, hv => by
    simp only [Run.assignTo]
    exact R.bind (eval h e scope hstands) fun _ o hkept ho => R.lift (keeps_setProperty ho key (hv.mono hkept))
  | .index e i, scope, _, hstands, v, hv => by
    simp only [Run.assignTo]
    refine R.bind (eval h e scope hstands) fun _ o hkept₁ ho => ?_
    refine R.bind (eval h i scope (hstands.mono hkept₁)) fun _ k hkept₂ hk => ?_
    exact bind_key (f := fun key => monadLift (setProperty o key v)) hk fun key hkept₃ =>
      R.lift (keeps_setProperty (ho.mono (hkept₂.trans hkept₃)) key (hv.mono (hkept₁.trans (hkept₂.trans hkept₃))))

/-- It can be said of rows of expressions. -/
theorem evalList (h : R.Calls context call) : ∀ (es : List Expr) (scope : Scope) {kept : Set Thing},
    Stands kept context scope → R.Of (.list .value) kept (Run.evalList call context es scope)
  | [], _, _, _ => by simp only [Run.evalList]; exact R.pure nofun
  | e :: es, scope, _, hstands => by
    simp only [Run.evalList]
    refine R.bind (eval h e scope hstands) fun _ v hkept₁ hv => ?_
    exact R.bind (evalList h es scope (hstands.mono hkept₁)) fun _ vs hkept₂ hvs =>
      R.pure (a := v :: vs) (List.forall_mem_cons.2 ⟨hv.mono hkept₂, hvs⟩)

/-- It can be said of object literals. -/
theorem evalEntries (h : R.Calls context call) :
    ∀ (entries : List (String × Expr)) (scope : Scope) {kept : Set Thing}, Stands kept context scope →
      R.Of (.list .entry) kept (Run.evalEntries call context entries scope)
  | [], _, _, _ => by simp only [Run.evalEntries]; exact R.pure nofun
  | (key, e) :: es, scope, _, hstands => by
    simp only [Run.evalEntries]
    refine R.bind (eval h e scope hstands) fun _ v hkept₁ hv => ?_
    exact R.bind (evalEntries h es scope (hstands.mono hkept₁)) fun _ vs hkept₂ hvs =>
      R.pure (a := (key, v) :: vs) (List.forall_mem_cons.2 ⟨hv.mono hkept₂, hvs⟩)

end

/-! ### Statements, functions and modules -/

theorem execDeclaration (h : R.Calls context call) (hstands : Stands kept context scope) (declaration : Declaration) :
    R.Of (.any Unit) kept (Run.execDeclaration call context scope declaration) := by
  have hdeclare {name : String} (e : Expr) (mutable : Bool) : R.Of (.any Unit) kept
      (do monadLift (declare scope name (← Run.eval call context e scope) mutable)) :=
    R.bind (eval h e scope hstands) fun _ _ hkept hv =>
      R.lift (keeps_declare (hstands.mono hkept).scope.mem name hv mutable)
  cases declaration with
  | constant name e => exact hdeclare e false
  | function name params body => exact R.pure trivial
  | _ kind name init =>
    cases init with
    | none => exact R.lift (keeps_declare hstands.scope.mem name (v := .undefined) trivial true)
    | some e => exact hdeclare e true

/-- It can be said of statements in a scope of their own. -/
theorem inBlock {statements : List Stmt} {f : Scope → m Flow} (hstands : Stands kept context scope)
    (hf : ∀ (block : Scope) {kept' : Set Thing}, Stands kept' context block → R.Of .flow kept' (f block)) :
    R.Of .flow kept (do
      let block ← (monadLift (inner scope) : m Scope)
      let _ ← (monadLift (hoist context block statements) : m Unit)
      f block) := by
  refine R.bind (R.lift (keeps_inner hstands.scope.mem)) fun _ block hkept₁ hblock => ?_
  have hstands₁ : Stands _ context block := ⟨hkept₁ hstands.context, hblock⟩
  exact R.bind (R.lift (keeps_hoist hstands₁.context hblock statements)) fun _ _ hkept₂ _ =>
    hf block (hstands₁.mono hkept₂)

mutual

/-- It can be said of **statements**. -/
theorem exec (h : R.Calls context call) : ∀ (stmt : Stmt) (scope : Scope) {kept : Set Thing},
    Stands kept context scope → R.Of .flow kept (Run.exec call context stmt scope)
  | .declare declaration, scope, _, hstands => by
    simp only [Run.exec]
    exact R.bind (execDeclaration h hstands declaration) fun _ _ _ _ => R.pure (a := Flow.next) trivial
  | .eval e, scope, _, hstands => by
    simp only [Run.exec]
    exact R.bind (eval h e scope hstands) fun _ _ _ _ => R.pure (a := Flow.next) trivial
  | .branch test consequent none, scope, _, hstands => by
    simp only [Run.exec]
    refine R.bind (eval h test scope hstands) fun _ t hkept _ => ?_
    split
    · exact inBlock (hstands.mono hkept) fun block _ hblock => execAll h consequent block hblock
    · exact R.pure (a := Flow.next) trivial
  | .branch test consequent (some alternate), scope, _, hstands => by
    simp only [Run.exec]
    refine R.bind (eval h test scope hstands) fun _ t hkept _ => ?_
    split
    · exact inBlock (hstands.mono hkept) fun block _ hblock => execAll h consequent block hblock
    · exact inBlock (hstands.mono hkept) fun block _ hblock => execAll h alternate block hblock
  | .leave none, _, _, _ => by simp only [Run.exec]; exact R.pure (a := Flow.leave .undefined) trivial
  | .leave (some e), scope, _, hstands => by
    simp only [Run.exec]
    exact R.bind (eval h e scope hstands) fun _ v _ hv => R.pure (a := Flow.leave v) hv
  | .throw e, scope, _, hstands => by
    simp only [Run.exec]
    exact R.bind (eval h e scope hstands) fun _ v _ hv => R.lift (.throw (e := EvalError.thrown v) hv)

/-- It can be said of rows of statements. -/
theorem execAll (h : R.Calls context call) : ∀ (statements : List Stmt) (scope : Scope) {kept : Set Thing},
    Stands kept context scope → R.Of .flow kept (Run.execAll call context statements scope)
  | [], _, _, _ => by simp only [Run.execAll]; exact R.pure (a := Flow.next) trivial
  | stmt :: rest, scope, _, hstands => by
    simp only [Run.execAll]
    refine R.bind (exec h stmt scope hstands) fun _ flow hkept hflow => ?_
    cases flow with
    | next => exact execAll h rest scope (hstands.mono hkept)
    | leave v => exact R.pure (a := Flow.leave v) hflow

end

/-- It can be said of **functions**. -/
theorem runFunction (h : R.Calls context call) (hcontext : .object context ∈ kept) {c : Closure}
    (hc : c.Held kept) {args : List Value} (hargs : ∀ v ∈ args, v.Held kept) :
    R.Of .value kept (Run.runFunction call context c args) := by
  refine R.bind (R.lift (keeps_openScope hc hargs)) fun _ scope hkept₁ hscope => ?_
  have hstands : Stands _ context scope := ⟨hkept₁ hcontext, hscope⟩
  obtain ⟨identity, ⟨name, params, body⟩, captured, made, hold⟩ := c
  cases body with
  | value e => exact eval h e scope hstands
  | block statements =>
    have hblock : R.Of .flow _ (execBlock call context statements scope) :=
      R.bind (R.lift (keeps_hoist hstands.context hscope statements)) fun _ _ hkept₂ _ =>
        execAll h statements scope (hstands.mono hkept₂)
    refine R.bind hblock fun _ flow _ hflow => ?_
    cases flow with
    | next => exact R.pure (a := Value.undefined) trivial
    | leave v => exact R.pure hflow

/-- It can be said of a call if it can be said of those of functions. -/
theorem callWith_of (closure : Closure → List Value → m Value) {callee : Value} (hcallee : callee.Held kept)
    {args : List Value} (hargs : ∀ v ∈ args, v.Held kept)
    (h : ∀ c, callee = .function c → R.Of .value kept (closure c args)) :
    R.Of .value kept (Run.callWith closure callee args) := by
  cases callee with
  | function c => exact h c rfl
  | native n => exact R.lift (keeps_callNative hcallee hargs)
  | _ =>
    refine R.current fun s hs hsub => ⟨?_, R.lift (keeps_misuse nofun)⟩
    rw [Store.display_free hs (hcallee.mono hsub)]

theorem callWith {closure : Closure → List Value → m Value}
    (h : ∀ {kept : Set Thing} {c : Closure} {args : List Value}, .object context ∈ kept →
      (Value.function c).Held kept → (∀ v ∈ args, v.Held kept) → R.Of .value kept (closure c args)) :
    R.Calls context (Run.callWith closure) := fun hcontext hcallee hargs =>
  callWith_of closure hcallee hargs fun _ hc => h hcontext (hc ▸ hcallee) hargs

theorem hoistItems (hstands : Stands kept context scope) (items : List Item) :
    R.Of (.any Unit) kept (monadLift (Run.hoistItems context scope items)) := by
  refine R.lift (.forM fun i _ kept' hkept => ?_)
  have hstands := hstands.mono hkept
  unfold hoistItem
  split
  · exact keeps_hoistDeclaration hstands.context hstands.scope _
  · exact keeps_hoistDeclaration hstands.context hstands.scope _
  · exact keeps_hoistDeclaration hstands.context hstands.scope _
  · exact .pure trivial

theorem execItem (h : R.Calls context call) (hstands : Stands kept context scope) (i : Item) :
    R.Of .flow kept (Run.execItem call context scope i) := by
  cases i with
  | importing declaration => exact R.pure (a := Flow.next) trivial
  | statement stmt => exact exec h stmt scope hstands
  | exporting declaration =>
    cases declaration with
    | defaultValue e =>
      exact R.bind (eval h e scope hstands) fun _ _ hkept hv =>
        R.bind (R.lift (keeps_declare (hstands.mono hkept).scope.mem defaultBinding hv false)) fun _ _ _ _ =>
          R.pure (a := Flow.next) trivial
    | defaultFunction name params body =>
      refine R.current fun s hs hsub => ?_
      have hstays := not_gone_of_held hstands.scope hsub
      have hv : ((s.lookup? name scope).getD .undefined).Held (s.live gone) := by
        cases hlookup : s.lookup? name scope with
        | none => trivial
        | some v => exact hs.lookup? hstays hlookup
      rw [Store.lookup?_free hstays]
      exact ⟨rfl, R.bind (R.lift (keeps_declare (hstands.mono hsub).scope.mem defaultBinding hv false))
        fun _ _ _ _ => R.pure (a := Flow.next) trivial⟩
    | declaration declaration =>
      exact R.bind (execDeclaration h hstands declaration) fun _ _ _ _ => R.pure (a := Flow.next) trivial
    | _ => exact R.pure (a := Flow.next) trivial

theorem execItems (h : R.Calls context call) (hstands : Stands kept context scope) (items : List Item) :
    R.Of (.any Unit) kept (Run.execItems call context scope items) := by
  induction items generalizing kept with
  | nil => exact R.pure trivial
  | cons i rest ih =>
    refine R.bind (execItem h hstands i) fun _ flow hkept _ => ?_
    cases flow with
    | next => exact ih (hstands.mono hkept)
    | leave v => exact R.pure trivial

/-- It can be said of **modules**. -/
theorem runModuleWith (h : R.Calls context call) (p : Program) (hstands : Stands kept context scope) :
    R.Of (.any Unit) kept (Run.runModuleWith call context p scope) :=
  R.bind (hoistItems hstands p.body) fun _ _ hkept _ => execItems h (hstands.mono hkept) p.body

end Keeping

namespace Run

/-- Steps of scripts keep what is held. -/
def keeping (gone : Thing → Bool) : Keeping gone Run where
  Of K kept x := Keeps gone K kept x
  pure := .pure
  bind := .bind
  lift h := h
  current := keeps_bind_get

theorem keeps_callClosure (context : ObjectId) (n : Nat) {kept : Set Thing} {c : Closure} {args : List Value}
    (hcontext : .object context ∈ kept) (hc : (Value.function c).Held kept) (hargs : ∀ v ∈ args, v.Held kept) :
    Keeps gone .value kept (callClosure context n c args) := by
  induction n generalizing kept c args with
  | zero => exact .throw trivial
  | succ n ih => exact Keeping.runFunction (R := keeping gone) (Keeping.callWith ih) hcontext hc.2 hargs

/-- **Calls** keep what is held. -/
theorem keeps_call (context : ObjectId) : (keeping gone).Calls context (call context) :=
  Keeping.callWith fun hcontext hc hargs => keeps_callClosure context maxCalls hcontext hc hargs

/-- **Calls from outside** keep what is held. -/
theorem keeps_callFromOutside {callee : Value} (hcallee : callee.Held kept) {args : List Value}
    (hargs : ∀ v ∈ args, v.Held kept) : Keeps gone .value kept (callFromOutside callee args) := by
  cases callee with
  | function c => exact keeps_call c.context hcallee.2.context hcallee hargs
  | _ =>
    exact Keeping.callWith_of (R := keeping gone) (fun _ _ => throw .tooManyCalls) hcallee hargs fun _ h => nomatch h

/-- **Modules** keep what is held. -/
theorem keeps_runModule (p : Program) (hstands : Stands kept context scope) :
    Keeps gone (.any Unit) kept (runModule context p scope) :=
  Keeping.runModuleWith (R := keeping gone) (keeps_call context) p hstands

end Run
end Script
end ScriptImport
