/-
# Scripts do the same behind another store

If the calls of two runs are apart, everything that syntax does is: expressions (`apart_eval`), statements
(`apart_exec`), functions (`apart_runFunction`) and modules (`apart_runModule`).  So calls are apart
(`apart_call`), by induction on how many of them may be inside one another.  New contexts are apart as well, and
so is what the builtin modules that are always there export: they make it anew (`Registry.anew_default`).
-/

import ScriptImport.Builtin.Registry
import ScriptImport.Proofs.Script.Apart
import ScriptImport.Proofs.Script.Simulation

namespace ScriptImport
namespace Script

open Syntax

namespace Run

variable {old : Store} {d : Extent} {call₁ call₂ : Value → List Value → Run Value} {context : ObjectId}

/-- Calls from code that runs in `context` are apart. -/
def ApartCalls (old : Store) (context : ObjectId) (call₁ call₂ : Value → List Value → Run Value) : Prop :=
  ∀ {d : Extent} {callee : Value} {args : List Value}, context < d.objects → callee.Within d →
    (∀ v ∈ args, v.Within d) →
      Apart old .value d (call₁ callee args)
        (call₂ (callee.behind old.extent) (args.map (Value.behind old.extent)))

/-! ### Expressions -/

/-- A new object with some entries over others. -/
theorem apart_objectOf {base : Dict Value} {entries : List (String × Value)} (hbase : ∀ e ∈ base, e.2.Within d)
    (hentries : ∀ e ∈ entries, e.2.Within d) :
    Apart old .object d (newObject (Dict.insertAll base entries))
      (newObject (Dict.insertAll (Dict.mapValues (Value.behind old.extent) base)
        (Dict.mapValues (Value.behind old.extent) entries))) := by
  rw [← Dict.mapValues_insertAll]
  exact apart_newObject fun e he => (Dict.mem_or_mem_of_mem_insertAll he).elim (hentries e) (hbase e)

/-- What depends on the store as it is. -/
theorem apart_bind_current {α : Type} {K : Kind α} {f g : Store → Run α}
    (h : ∀ s : Store, s.Closed → d ≤ s.extent → Apart old K s.extent (f s) (g (old.behind s))) :
    Apart old K d (current >>= f) (current >>= g) := apart_bind_get h

/-- What depends on the store for the key that a value is. -/
theorem apart_bind_key {α : Type} {K : Kind α} {f g : String → Run α} (v : Value)
    (h : ∀ {d' : Extent} (key : String), d ≤ d' → Apart old K d' (f key) (g key)) :
    Apart old K d (do f ((← current).key v)) (do g ((← current).key (v.behind old.extent))) :=
  apart_bind_current fun s _ hd => by
    rw [Store.key_behind]
    exact h _ hd

theorem apart_unary {op : UnaryOp} {e : Expr} {scope : Scope}
    (he : Apart old .value d (eval call₁ context e scope)
      (eval call₂ (old.extent.objects + context) e (Scope.behind old.extent scope))) :
    Apart old .value d (eval call₁ context (.unary op e) scope)
      (eval call₂ (old.extent.objects + context) (.unary op e) (Scope.behind old.extent scope)) := by
  cases op with
  | not =>
    simp only [eval]
    refine he.bind fun _ v _ _ => .pure_of_eq trivial ?_
    exact congrArg (fun b => Value.bool !b) (Value.isTruthy_behind ..)
  | negate =>
    simp only [eval]
    refine he.bind fun _ v _ _ => .pure_of_eq trivial ?_
    exact congrArg (fun x => Value.number (-x)) (Value.toNumber_behind ..)
  | typeof =>
    by_cases hname : ∃ x, e = .name x
    · obtain ⟨x, rfl⟩ := hname
      simp only [eval]
      refine apart_bind_current fun s _ _ => .pure_of_eq trivial ?_
      rw [Store.resolve?_behind]
      cases s.resolve? context scope x with
      | none => rfl
      | some v => exact congrArg Value.string (Value.typeName_behind ..)
    · have hne : ∀ x, e ≠ .name x := fun x h => hname ⟨x, h⟩
      rw [Simulation.eval_typeof call₁ context hne, Simulation.eval_typeof call₂ _ hne]
      refine he.bind fun _ v _ _ => .pure_of_eq trivial ?_
      exact congrArg Value.string (Value.typeName_behind ..)

mutual

/-- **Expressions** do the same behind another store if calls do. -/
theorem apart_eval (h : ApartCalls old context call₁ call₂) : ∀ (e : Expr) (scope : Scope) {d : Extent},
    context < d.objects → Apart old .value d (eval call₁ context e scope)
      (eval call₂ (old.extent.objects + context) e (Scope.behind old.extent scope))
  | .number _, _, _, _ => by simp only [eval]; exact .pure trivial
  | .string _, _, _, _ => by simp only [eval]; exact .pure trivial
  | .bool _, _, _, _ => by simp only [eval]; exact .pure trivial
  | .null, _, _, _ => by simp only [eval]; exact .pure trivial
  | .name x, scope, _, hc => by simp only [eval]; exact apart_readName hc scope x
  | .array items, scope, _, hc => by
    simp only [eval]
    exact (apart_evalList h items scope hc).bind fun _ _ _ hvs => apart_newArray hvs
  | .object entries, scope, _, hc => by
    simp only [eval]
    exact (apart_evalEntries h entries scope hc).bind fun _ _ _ hes =>
      (apart_objectOf (fun _ h => absurd h List.not_mem_nil) hes).bind fun _ o _ ho => .pure (a := Value.object o) ho
  | .member e key, scope, _, hc => by
    simp only [eval]
    exact (apart_eval h e scope hc).bind fun _ _ _ hv => apart_getProperty hv key
  | .index e i, scope, _, hc => by
    simp only [eval]
    refine (apart_eval h e scope hc).bind fun d₁ v hd₁ hv => ?_
    refine (apart_eval h i scope (hc.trans_le hd₁.2.1)).bind fun d₂ k hd₂ _ => ?_
    exact apart_bind_key (f := getProperty v) (g := getProperty (v.behind old.extent)) k fun key hd =>
      apart_getProperty (hv.mono (hd₂.trans hd)) key
  | .call callee args, scope, _, hc => by
    simp only [eval]
    refine (apart_eval h callee scope hc).bind fun d₁ f hd₁ hf => ?_
    exact (apart_evalList h args scope (hc.trans_le hd₁.2.1)).bind fun d₂ vs hd₂ hvs =>
      h (hc.trans_le (hd₁.trans hd₂).2.1) (hf.mono hd₂) hvs
  | .function _ _ _, scope, _, _ => by simp only [eval]; exact apart_newFunction context scope _
  | .arrow _ _, scope, _, _ => by simp only [eval]; exact apart_newClosure context scope _
  | .unary _ e, scope, _, hc => apart_unary (apart_eval h e scope hc)
  | .binary op a b, scope, _, hc => by
    simp only [eval]
    refine (apart_eval h a scope hc).bind fun d₁ x hd₁ hx => ?_
    refine (apart_eval h b scope (hc.trans_le hd₁.2.1)).bind fun d₂ y hd₂ hy => apart_bind_current fun s _ _ => ?_
    exact .pure_of_eq (Store.binary_within s op x y) (Store.binary_behind old s op x y)
  | .logical op a b, scope, _, hc => by
    simp only [eval]
    refine (apart_eval h a scope hc).bind fun d₁ x hd₁ hx => ?_
    rw [Value.isTruthy_behind]
    split
    · exact .pure hx
    · exact .pure hx
    · exact apart_eval h b scope (hc.trans_le hd₁.2.1)
  | .conditional test a b, scope, _, hc => by
    simp only [eval]
    refine (apart_eval h test scope hc).bind fun d₁ t hd₁ _ => ?_
    rw [Value.isTruthy_behind]
    split
    · exact apart_eval h a scope (hc.trans_le hd₁.2.1)
    · exact apart_eval h b scope (hc.trans_le hd₁.2.1)
  | .assign target e, scope, _, hc => by
    simp only [eval]
    refine (apart_eval h e scope hc).bind fun d₁ v hd₁ hv => ?_
    exact (apart_assignTo h target scope (hc.trans_le hd₁.2.1) hv).bind fun _ _ hd₂ _ => .pure (hv.mono hd₂)

/-- Assignments do the same behind another store if calls do. -/
theorem apart_assignTo (h : ApartCalls old context call₁ call₂) : ∀ (target : Target) (scope : Scope) {d : Extent},
    context < d.objects → ∀ {v : Value}, v.Within d → Apart old (.same Unit) d (assignTo call₁ context target v scope)
      (assignTo call₂ (old.extent.objects + context) target (v.behind old.extent) (Scope.behind old.extent scope))
  | .name x, scope, _, _, _, hv => by simp only [assignTo]; exact apart_writeName context scope x hv
  | .member e key, scope, _, hc, _, hv => by
    simp only [assignTo]
    exact (apart_eval h e scope hc).bind fun _ o hd _ => apart_setProperty o key (hv.mono hd)
  | .index e i, scope, _, hc, v, hv => by
    simp only [assignTo]
    refine (apart_eval h e scope hc).bind fun d₁ o hd₁ _ => ?_
    refine (apart_eval h i scope (hc.trans_le hd₁.2.1)).bind fun d₂ k hd₂ _ => ?_
    exact apart_bind_key (f := (setProperty o · v)) (g := (setProperty (o.behind old.extent) · (v.behind old.extent)))
      k fun key hd => apart_setProperty o key (hv.mono (hd₁.trans (hd₂.trans hd)))

/-- Rows of expressions do the same behind another store if calls do. -/
theorem apart_evalList (h : ApartCalls old context call₁ call₂) : ∀ (es : List Expr) (scope : Scope) {d : Extent},
    context < d.objects → Apart old (.list .value) d (evalList call₁ context es scope)
      (evalList call₂ (old.extent.objects + context) es (Scope.behind old.extent scope))
  | [], _, _, _ => by simp only [evalList]; exact .pure nofun
  | e :: es, scope, _, hc => by
    simp only [evalList]
    refine (apart_eval h e scope hc).bind fun d₁ v hd₁ hv => ?_
    exact (apart_evalList h es scope (hc.trans_le hd₁.2.1)).bind fun _ vs hd₂ hvs =>
      .pure (a := v :: vs) (List.forall_mem_cons.2 ⟨hv.mono hd₂, hvs⟩)

/-- Object literals do the same behind another store if calls do. -/
theorem apart_evalEntries (h : ApartCalls old context call₁ call₂) :
    ∀ (entries : List (String × Expr)) (scope : Scope) {d : Extent}, context < d.objects →
      Apart old (.list .entry) d (evalEntries call₁ context entries scope)
        (evalEntries call₂ (old.extent.objects + context) entries (Scope.behind old.extent scope))
  | [], _, _, _ => by simp only [evalEntries]; exact .pure nofun
  | (key, e) :: es, scope, _, hc => by
    simp only [evalEntries]
    refine (apart_eval h e scope hc).bind fun d₁ v hd₁ hv => ?_
    exact (apart_evalEntries h es scope (hc.trans_le hd₁.2.1)).bind fun _ vs hd₂ hvs =>
      .pure (a := (key, v) :: vs) (List.forall_mem_cons.2 ⟨hv.mono hd₂, hvs⟩)

end

/-! ### Statements, functions and modules -/

theorem apart_execDeclaration (h : ApartCalls old context call₁ call₂) (scope : Scope) (declaration : Declaration)
    (hc : context < d.objects) : Apart old (.same Unit) d (execDeclaration call₁ context scope declaration)
      (execDeclaration call₂ (old.extent.objects + context) (Scope.behind old.extent scope) declaration) := by
  cases declaration with
  | constant name e => exact (apart_eval h e scope hc).bind fun _ _ _ hv => apart_declare scope name hv false
  | function name params body => exact .pure trivial
  | _ kind name init =>
    cases init with
    | none => exact apart_declare scope name (v := .undefined) trivial true
    | some e => exact (apart_eval h e scope hc).bind fun _ _ _ hv => apart_declare scope name hv true

/-- Statements in a scope of their own. -/
theorem apart_inBlock {statements : List Stmt} {f g : Scope → Run Flow}
    (hf : ∀ (block : Scope) {d' : Extent}, d ≤ d' →
      Apart old .flow d' (f block) (g (Scope.behind old.extent block))) (scope : Scope) :
    Apart old .flow d
      (do
        let block ← inner scope
        let _ ← hoist context block statements
        f block)
      (do
        let block ← inner (Scope.behind old.extent scope)
        let _ ← hoist (old.extent.objects + context) block statements
        g block) :=
  (apart_inner scope).bind fun _ block hd _ => (apart_hoist context block statements).bind fun _ _ hd' _ =>
    hf block (hd.trans hd')

mutual

/-- **Statements** do the same behind another store if calls do. -/
theorem apart_exec (h : ApartCalls old context call₁ call₂) : ∀ (stmt : Stmt) (scope : Scope) {d : Extent},
    context < d.objects → Apart old .flow d (exec call₁ context stmt scope)
      (exec call₂ (old.extent.objects + context) stmt (Scope.behind old.extent scope))
  | .declare declaration, scope, _, hc => by
    simp only [exec]
    exact (apart_execDeclaration h scope declaration hc).bind fun _ _ _ _ => .pure (a := Flow.next) trivial
  | .eval e, scope, _, hc => by
    simp only [exec]
    exact (apart_eval h e scope hc).bind fun _ _ _ _ => .pure (a := Flow.next) trivial
  | .branch test consequent none, scope, _, hc => by
    simp only [exec]
    refine (apart_eval h test scope hc).bind fun d₁ t hd₁ _ => ?_
    rw [Value.isTruthy_behind]
    split
    · exact apart_inBlock (fun block _ hd => apart_execAll h consequent block (hc.trans_le (hd₁.trans hd).2.1)) scope
    · exact .pure (a := Flow.next) trivial
  | .branch test consequent (some alternate), scope, _, hc => by
    simp only [exec]
    refine (apart_eval h test scope hc).bind fun d₁ t hd₁ _ => ?_
    rw [Value.isTruthy_behind]
    split
    · exact apart_inBlock (fun block _ hd => apart_execAll h consequent block (hc.trans_le (hd₁.trans hd).2.1)) scope
    · exact apart_inBlock (fun block _ hd => apart_execAll h alternate block (hc.trans_le (hd₁.trans hd).2.1)) scope
  | .leave none, _, _, _ => by simp only [exec]; exact .pure (a := Flow.leave .undefined) trivial
  | .leave (some e), scope, _, hc => by
    simp only [exec]
    exact (apart_eval h e scope hc).bind fun _ v _ hv => .pure (a := Flow.leave v) hv
  | .throw e, scope, _, hc => by
    simp only [exec]
    exact (apart_eval h e scope hc).bind fun d' v _ _ => .throw trivial

/-- Rows of statements do the same behind another store if calls do. -/
theorem apart_execAll (h : ApartCalls old context call₁ call₂) : ∀ (statements : List Stmt) (scope : Scope) {d : Extent},
    context < d.objects → Apart old .flow d (execAll call₁ context statements scope)
      (execAll call₂ (old.extent.objects + context) statements (Scope.behind old.extent scope))
  | [], _, _, _ => by simp only [execAll]; exact .pure (a := Flow.next) trivial
  | stmt :: rest, scope, _, hc => by
    simp only [execAll]
    refine (apart_exec h stmt scope hc).bind fun d₁ flow hd₁ hflow => ?_
    cases flow with
    | next => exact apart_execAll h rest scope (hc.trans_le hd₁.2.1)
    | leave v => exact .pure (a := Flow.leave v) hflow

end

/-- **Functions** do the same behind another store if calls do. -/
theorem apart_runFunction (h : ApartCalls old context call₁ call₂) (hc : context < d.objects) (c : Closure)
    {args : List Value} (hargs : ∀ v ∈ args, v.Within d) :
    Apart old .value d (runFunction call₁ context c args)
      (runFunction call₂ (old.extent.objects + context) (c.behind old.extent)
        (args.map (Value.behind old.extent))) := by
  refine (apart_openScope c hargs).bind fun d₁ scope hd₁ _ => ?_
  have hc₁ := hc.trans_le hd₁.2.1
  obtain ⟨identity, ⟨name, params, body⟩, captured, made, hold⟩ := c
  cases body with
  | value e => exact apart_eval h e scope hc₁
  | block statements =>
    have hblock : Apart old .flow d₁ (execBlock call₁ context statements scope)
        (execBlock call₂ (old.extent.objects + context) statements (Scope.behind old.extent scope)) :=
      (apart_hoist context scope statements).bind fun _ _ hd₂ _ =>
        apart_execAll h statements scope (hc₁.trans_le hd₂.2.1)
    refine hblock.bind fun _ flow _ hflow => ?_
    cases flow with
    | next => exact .pure (a := Value.undefined) trivial
    | leave v => exact .pure hflow

/-- Calls are apart if those of functions are. -/
theorem apart_callWith {closure₁ closure₂ : Closure → List Value → Run Value}
    (h : ∀ {d : Extent} (c : Closure) {args : List Value}, context < d.objects → (∀ v ∈ args, v.Within d) →
      Apart old .value d (closure₁ c args)
        (closure₂ (c.behind old.extent) (args.map (Value.behind old.extent)))) :
    ApartCalls old context (callWith closure₁) (callWith closure₂) := by
  intro d callee args hc _ hargs
  have hshown (s : Store) := Store.display_behind old s callee
  cases callee with
  | function c => exact h c hc hargs
  | native n => exact apart_callNative n.operation hargs
  | _ =>
    refine apart_bind_current fun s _ _ => ?_
    rw [← hshown s]
    exact apart_misuse _

theorem apart_callClosure (context : ObjectId) (n : Nat) {d : Extent} (c : Closure) {args : List Value}
    (hc : context < d.objects) (hargs : ∀ v ∈ args, v.Within d) :
    Apart old .value d (callClosure context n c args)
      (callClosure (old.extent.objects + context) n (c.behind old.extent) (args.map (Value.behind old.extent))) := by
  induction n generalizing d c args with
  | zero => exact .throw trivial
  | succ n ih => exact apart_runFunction (apart_callWith fun c _ hc hargs => ih c hc hargs) hc c hargs

/-- **Calls** do the same behind another store. -/
theorem apart_call (context : ObjectId) :
    ApartCalls old context (call context) (call (old.extent.objects + context)) :=
  apart_callWith fun c _ hc hargs => apart_callClosure context maxCalls c hc hargs

theorem apart_hoistItems (context : ObjectId) (scope : Scope) (items : List Item) :
    Apart old (.same Unit) d (hoistItems context scope items)
      (hoistItems (old.extent.objects + context) (Scope.behind old.extent scope) items) := by
  have hitem {d : Extent} (i : Item) : Apart old (.same Unit) d (hoistItem context scope i)
      (hoistItem (old.extent.objects + context) (Scope.behind old.extent scope) i) := by
    unfold hoistItem
    split
    · exact apart_hoistDeclaration context scope _
    · exact apart_hoistDeclaration context scope _
    · exact apart_hoistDeclaration context scope _
    · exact .pure trivial
  induction items generalizing d with
  | nil => exact .pure trivial
  | cons i rest ih => exact (hitem i).bind fun _ _ _ _ => ih

theorem apart_execItem (h : ApartCalls old context call₁ call₂) (scope : Scope) (hc : context < d.objects) (i : Item) :
    Apart old .flow d (execItem call₁ context scope i)
      (execItem call₂ (old.extent.objects + context) (Scope.behind old.extent scope) i) := by
  cases i with
  | importing declaration => exact .pure (a := Flow.next) trivial
  | statement stmt => exact apart_exec h stmt scope hc
  | exporting declaration =>
    cases declaration with
    | defaultValue e =>
      exact (apart_eval h e scope hc).bind fun _ _ _ hv =>
        (apart_declare scope defaultBinding hv false).bind fun _ _ _ _ => .pure (a := Flow.next) trivial
    | defaultFunction name params body =>
      refine apart_bind_current fun s hs _ => ?_
      have hv : ((s.lookup? name scope).getD .undefined).Within s.extent := by
        cases hlookup : s.lookup? name scope with
        | none => trivial
        | some v => exact Store.lookup?_within hs hlookup
      have hmoved : ((old.behind s).lookup? name (Scope.behind old.extent scope)).getD .undefined
          = ((s.lookup? name scope).getD .undefined).behind old.extent := by
        rw [Store.lookup?_behind]
        cases s.lookup? name scope <;> rfl
      rw [hmoved]
      exact (apart_declare scope defaultBinding hv false).bind fun _ _ _ _ => .pure (a := Flow.next) trivial
    | declaration declaration =>
      exact (apart_execDeclaration h scope declaration hc).bind fun _ _ _ _ => .pure (a := Flow.next) trivial
    | _ => exact .pure (a := Flow.next) trivial

theorem apart_execItems (h : ApartCalls old context call₁ call₂) (scope : Scope) (items : List Item)
    (hc : context < d.objects) : Apart old (.same Unit) d (execItems call₁ context scope items)
      (execItems call₂ (old.extent.objects + context) (Scope.behind old.extent scope) items) := by
  induction items generalizing d with
  | nil => exact .pure trivial
  | cons i rest ih =>
    refine (apart_execItem h scope hc i).bind fun _ flow hd _ => ?_
    cases flow with
    | next => exact ih (hc.trans_le hd.2.1)
    | leave v => exact .pure trivial

/-- **Modules** do the same behind another store. -/
theorem apart_runModule (p : Program) (scope : Scope) (hc : context < d.objects) :
    Apart old (.same Unit) d (runModule context p scope)
      (runModule (old.extent.objects + context) p (Scope.behind old.extent scope)) :=
  (apart_hoistItems context scope p.body).bind fun _ _ hd _ =>
    apart_execItems (apart_call context) scope p.body (hc.trans_le hd.2.1)

/-! ### What every import makes anew -/

theorem apart_newLibrary {constants : Dict Value} {functions : List (String × Operation)}
    (hconstants : ∀ e ∈ constants, (∀ d, e.2.Within d) ∧ e.2.behind old.extent = e.2)
    (hfunctions : ∀ f ∈ functions, f.2.behind old.extent = f.2) :
    Apart old .value d (newLibrary constants functions) (newLibrary constants functions) := by
  have hnatives {d : Extent} : Apart old (.list .entry) d
      (functions.mapM fun f => do return (f.1, ← newNative f.1 f.2))
      (functions.mapM fun f => do return (f.1, ← newNative f.1 f.2)) := by
    refine .mapM fun f hf d _ => ?_
    have hnative : Apart old .value d (newNative f.1 f.2) (newNative f.1 (f.2.behind old.extent)) :=
      apart_newNative f.1 f.2
    rw [hfunctions f hf] at hnative
    exact hnative.bind fun _ v _ hv => .pure (a := (f.1, v)) hv
  have hsame : Dict.mapValues (Value.behind old.extent) constants = constants :=
    Dict.mapValues_eq_self fun e he => (hconstants e he).2
  refine hnatives.bind fun d natives _ hnatives => ?_
  have hobject : Apart old .object d (newObject (Dict.insertAll constants natives))
      (newObject (Dict.insertAll (Dict.mapValues (Value.behind old.extent) constants)
        (Dict.mapValues (Value.behind old.extent) natives))) :=
    apart_objectOf (fun e he => (hconstants e he).1 d) hnatives
  rw [hsame] at hobject
  exact hobject.bind fun _ o _ ho => .pure (a := Value.object o) ho

/-- **A new context** is made of new things only. -/
theorem apart_newContext : Apart old .object d newContext newContext := by
  have hnone : ∀ e ∈ ([] : Dict Value), (∀ d, e.2.Within d) ∧ e.2.behind old.extent = e.2 := fun _ h =>
    absurd h List.not_mem_nil
  refine (apart_newLibrary hnone (by simp [Operation.behind])).bind fun d₁ console hd₁ hconsole => ?_
  refine (apart_newLibrary hnone (by simp [Operation.behind])).bind fun d₂ json hd₂ hjson => ?_
  refine (apart_newLibrary (by simp [Value.Within, Value.behind]) (by simp [Operation.behind])).bind
    fun d₃ math hd₃ hmath => ?_
  refine (apart_newNative "String" .toString).bind fun d₄ string hd₄ hstring => ?_
  refine (apart_newNative "Number" .toNumber).bind fun d₅ number hd₅ hnumber => ?_
  refine (apart_newNative "Boolean" .toBoolean).bind fun d₆ boolean hd₆ hboolean => ?_
  refine apart_objectOf (fun _ (h : _ ∈ []) => absurd h List.not_mem_nil) ?_
  simp only [List.forall_mem_cons]
  exact ⟨hconsole.mono (hd₂.trans (hd₃.trans (hd₄.trans (hd₅.trans hd₆)))),
    hjson.mono (hd₃.trans (hd₄.trans (hd₅.trans hd₆))), hmath.mono (hd₄.trans (hd₅.trans hd₆)),
    hstring.mono (hd₅.trans hd₆), hnumber.mono hd₆, hboolean, fun _ h => absurd h List.not_mem_nil⟩

end Run
end Script

open Script

namespace Builtin

variable {old : Store} {b : Builtin}

/-- A builtin module that gives away nothing that is there already: reading its exports makes them anew. -/
structure Anew (b : Builtin) : Prop where
  exportNames : ∀ s s', b.exportNames s = b.exportNames s'
  value? : ∀ (old : Store) (d : Extent) (name : String),
    Apart old (.option .value) d (b.value? name) (b.value? name)

theorem anew_ofExports {name : String} {exports : Dict (Run Value)}
    (h : ∀ e ∈ exports, ∀ (old : Store) (d : Extent), Apart old .value d e.2 e.2) :
    (ofExports name exports).Anew where
  exportNames _ _ := rfl
  value? old d key := by
    unfold ofExports
    dsimp only
    cases hmake : Dict.get? exports key with
    | none => exact .pure (a := none) nofun
    | some make =>
      exact (h _ (Dict.mem_of_get? hmake) old d).bind fun _ v _ hv =>
        .pure (a := some v) fun _ h => Option.some.inj h ▸ hv

theorem apart_function (old : Store) (d : Extent) (name : String) {operation : Operation}
    (h : operation.behind old.extent = operation) :
    Apart old .value d (function name operation).2 (function name operation).2 := by
  have hnative : Apart old .value d (Run.newNative name operation)
      (Run.newNative name (operation.behind old.extent)) := Run.apart_newNative name operation
  rwa [h] at hnative

theorem anew_path : path.Anew :=
  anew_ofExports (by
    simp only [List.forall_mem_cons]
    exact ⟨fun old d => apart_function old d _ rfl, fun old d => apart_function old d _ rfl,
      fun old d => apart_function old d _ rfl, fun old d => apart_function old d _ rfl,
      fun _ _ => .pure (a := Value.string "/") trivial, fun _ h => absurd h List.not_mem_nil⟩)

theorem anew_os : os.Anew :=
  anew_ofExports (by
    simp only [List.forall_mem_cons]
    exact ⟨fun _ _ => .pure (a := Value.string "\n") trivial, fun old d => apart_function old d _ rfl,
      fun old d => apart_function old d _ rfl, fun old d => apart_function old d _ rfl,
      fun old d => apart_function old d _ rfl, fun _ h => absurd h List.not_mem_nil⟩)

theorem anew_process : process.Anew :=
  anew_ofExports (by
    simp only [List.forall_mem_cons]
    refine ⟨fun old d => apart_function old d _ rfl, fun old d => Run.apart_bind_get fun s _ _ => ?_,
      fun _ _ => Run.apart_bind_get fun s _ _ => .pure (a := Value.number (Float.ofNat s.host.processId)) trivial,
      fun _ _ => Run.apart_bind_get fun s _ _ => .pure (a := Value.string s.host.platform) trivial,
      fun _ h => absurd h List.not_mem_nil⟩
    have hstring : ∀ e ∈ Dict.mapValues Value.string s.host.environment, ∃ text, e.2 = .string text := fun e he =>
      (List.mem_map.1 he).elim fun x hx => ⟨x.2, hx.2 ▸ rfl⟩
    have hsame : Dict.mapValues (Value.behind old.extent) (Dict.mapValues Value.string s.host.environment)
        = Dict.mapValues Value.string s.host.environment :=
      Dict.mapValues_eq_self fun e he => (hstring e he).elim fun _ h => h ▸ rfl
    have hobject : Apart old .object s.extent
        (Run.newObject (Dict.mapValues Value.string s.host.environment))
        (Run.newObject (Dict.mapValues (Value.behind old.extent)
          (Dict.mapValues Value.string s.host.environment))) :=
      Run.apart_newObject fun e he => (hstring e he).elim fun _ h => h ▸ trivial
    rw [hsame] at hobject
    exact hobject.bind fun _ o _ ho => .pure (a := Value.object o) ho)

theorem anew_crypto : crypto.Anew :=
  anew_ofExports (by
    simp only [List.forall_mem_cons]
    exact ⟨fun old d => apart_function old d _ rfl, fun _ h => absurd h List.not_mem_nil⟩)

end Builtin

namespace Registry

theorem mem_foldl_register {r : Registry} {ms : List Builtin} {e : String × Builtin}
    (h : e ∈ (ms.foldl register r).modules) : e.2 ∈ ms ∨ e ∈ r.modules := by
  induction ms generalizing r with
  | nil => exact .inr h
  | cons m ms ih =>
    rcases ih h with h | h
    · exact .inl (List.mem_cons_of_mem _ h)
    · rcases Dict.eq_or_mem_of_mem_insert h with rfl | h
      · exact .inl (List.mem_cons_self ..)
      · exact .inr h

/-- What can be said of each of the modules that are always there. -/
theorem of_default {P : Builtin → Prop} (hpath : P .path) (hos : P .os) (hprocess : P .process) (hcrypto : P .crypto)
    {name : String} {b : Builtin} (h : Registry.default.get? name = some b) : P b := by
  have hmem := (mem_foldl_register (Dict.mem_of_get? h)).resolve_right List.not_mem_nil
  simp only [List.mem_cons, List.not_mem_nil, or_false] at hmem
  rcases hmem with rfl | rfl | rfl | rfl
  · exact hpath
  · exact hos
  · exact hprocess
  · exact hcrypto

/-- All modules of a registry make their exports anew. -/
def Anew (r : Registry) : Prop := ∀ {name : String} {b : Builtin}, r.get? name = some b → b.Anew

/-- **The modules that are always there** make their exports anew. -/
theorem anew_default : Registry.default.Anew :=
  of_default Builtin.anew_path Builtin.anew_os Builtin.anew_process Builtin.anew_crypto

end Registry
end ScriptImport
