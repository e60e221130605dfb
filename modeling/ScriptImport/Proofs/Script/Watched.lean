/-
# Scripts that are watched for syntax errors

Running a script has nothing to stop at that no source has, for `Syntax` has no trees for it.  Here looser trees are
run, and it is watched where that stops (`Stop`): at an import or an export below the top level, at a target that
nothing can be assigned to, at a function that no source has, in a call of `JSON.parse`, or elsewhere.  On the trees of
sources this is what scripts do (`runModule_loosen`, `callFromOutside_watched`): the first three never happen, and an
error of syntax comes from a call of `JSON.parse` only (`program_runs`).
-/

import ScriptImport.Proofs.Script.Simulation
import ScriptImport.Proofs.Syntax.Loose
import ScriptImport.Syntax.Module

namespace ScriptImport
namespace Script

open Syntax

/-- Where running a tree stops. -/
inductive Stop where
  /-- An import or an export that is not at the top level. -/
  | misplaced
  /-- Something is assigned to that cannot be assigned to. -/
  | target
  /-- A function that no source has is made. -/
  | function
  /-- A call of `JSON.parse`. -/
  | parsing (error : Json.ReadError)
  /-- Anything else. -/
  | other (error : EvalError)

/-- Whether this is an error of syntax. -/
def Stop.IsSyntax : Stop → Prop
  | misplaced => True
  | target => True
  | function => True
  | parsing _ => True
  | other (.badJson _) => True
  | other _ => False

/-- An error of `JSON.parse` and any other error. -/
def Stop.ofError : EvalError → Stop
  | .badJson e => parsing e
  | e => other e

/-- What running a script does while it is watched. -/
abbrev Watched := ExceptT Stop (StateM Store)

/-- Steps of scripts stop anywhere else than in `JSON.parse`. -/
instance : MonadLift Run Watched where
  monadLift x := fun s => ((x.run s).1.mapError .other, (x.run s).2)

namespace Watched

/-- Makes a function over a scope, if there is a source for it. -/
def newFunction (context : ObjectId) (scope : Scope) (name : Option String) (params : List String) (body : Loose.Body) :
    Watched Value :=
  match name, body.tighten? with
  | name, some (.block statements) => Run.newFunction context scope ⟨name, params, .block statements⟩
  | none, some (.value e) => Run.newClosure context scope ⟨none, params, .value e⟩
  | _, _ => throw .function

/-- Makes a function over a scope for a declaration, if there is a source for it. -/
def newDeclared (context : ObjectId) (scope : Scope) (name : String) (params : List String) (body : Loose.Body) :
    Watched Value :=
  match body.tighten? with
  | some (.block statements) => Run.newClosure context scope ⟨some name, params, .block statements⟩
  | _ => throw .function

/-- The function that a statement declares. -/
def declared? : Loose.Stmt → Option (Option String × List String × Loose.Body)
  | .function name params body => some (name, params, body)
  | .exporting (.defaultFunction name params body) => some (name, params, body)
  | .exporting (.declaration (.function name params body)) => some (name, params, body)
  | _ => none

/-- Binds the functions that statements declare, as far as they have names. -/
def hoist (context : ObjectId) (scope : Scope) : List Loose.Stmt → Watched Unit
  | [] => return ()
  | stmt :: rest => do
    match declared? stmt with
    | some (some name, params, body) => do
      Run.declare scope name (← newDeclared context scope name params body) true
      hoist context scope rest
    | _ => hoist context scope rest

mutual

/-- The value of an expression. -/
def eval (call : Value → List Value → Watched Value) (context : ObjectId) : Loose.Expr → Scope → Watched Value
  | .number x, _ => return .number x
  | .string s, _ => return .string s
  | .bool b, _ => return .bool b
  | .null, _ => return .null
  | .name x, scope => Run.readName context scope x
  | .array items, scope => do
    let vs ← evalList call context items scope
    Run.newArray vs
  | .object entries, scope => do
    let es ← evalEntries call context entries scope
    return .object (← Run.newObject (Dict.ofEntries es))
  | .member e key, scope => do
    let v ← eval call context e scope
    Run.getProperty v key
  | .index e i, scope => do
    let v ← eval call context e scope
    let k ← eval call context i scope
    Run.getProperty v ((← Run.current).key k)
  | .call callee args, scope => do
    let f ← eval call context callee scope
    let vs ← evalList call context args scope
    call f vs
  | .function name params body, scope => newFunction context scope name params body
  | .unary .typeof (.name x), scope => do
    return .string (((← Run.current).resolve? context scope x).getD .undefined).typeName
  | .unary op e, scope => do
    let v ← eval call context e scope
    match op with
    | .not => return .bool !v.isTruthy
    | .negate => return .number (-v.toNumber)
    | .typeof => return .string v.typeName
  | .binary op a b, scope => do
    let x ← eval call context a scope
    let y ← eval call context b scope
    return (← Run.current).binary op x y
  | .logical op a b, scope => do
    let x ← eval call context a scope
    match op, x.isTruthy with
    | .and, false => return x
    | .or, true => return x
    | _, _ => eval call context b scope
  | .conditional test a b, scope => do
    let t ← eval call context test scope
    if t.isTruthy then eval call context a scope else eval call context b scope
  | .assign target e, scope => do
    let v ← eval call context e scope
    assignTo call context target v scope
    return v

/-- Assigns a value to what an expression names, if it names something that can be assigned to. -/
def assignTo (call : Value → List Value → Watched Value) (context : ObjectId) :
    Loose.Expr → Value → Scope → Watched Unit
  | .name x, v, scope => Run.writeName context scope x v
  | .member e key, v, scope => do
    let o ← eval call context e scope
    Run.setProperty o key v
  | .index e i, v, scope => do
    let o ← eval call context e scope
    let k ← eval call context i scope
    Run.setProperty o ((← Run.current).key k) v
  | _, _, _ => throw .target

/-- The values of expressions. -/
def evalList (call : Value → List Value → Watched Value) (context : ObjectId) :
    List Loose.Expr → Scope → Watched (List Value)
  | [], _ => return []
  | e :: es, scope => do
    let v ← eval call context e scope
    return v :: (← evalList call context es scope)

/-- The properties of an object literal. -/
def evalEntries (call : Value → List Value → Watched Value) (context : ObjectId) :
    List (String × Loose.Expr) → Scope → Watched (List (String × Value))
  | [], _ => return []
  | (key, e) :: es, scope => do
    let v ← eval call context e scope
    return (key, v) :: (← evalEntries call context es scope)

end

mutual

/-- Runs a statement below the top level. -/
def exec (call : Value → List Value → Watched Value) (context : ObjectId) : Loose.Stmt → Scope → Watched Flow
  | .importing _, _ => throw .misplaced
  | .exporting _, _ => throw .misplaced
  | .bind kind name init, scope => do
    let mutable : Bool :=
      match kind with
      | .constant => false
      | .variable _ => true
    match init with
    | none => Run.declare scope name .undefined mutable
    | some e => Run.declare scope name (← eval call context e scope) mutable
    return .next
  | .function .., _ => return .next
  | .eval e, scope => do
    let _ ← eval call context e scope
    return .next
  | .branch test consequent alternate, scope => do
    let t ← eval call context test scope
    if t.isTruthy then
      let block ← Run.inner scope
      hoist context block consequent
      execAll call context consequent block
    else
      match alternate with
      | none => return .next
      | some statements =>
        let block ← Run.inner scope
        hoist context block statements
        execAll call context statements block
  | .leave none, _ => return .leave .undefined
  | .leave (some e), scope => do return .leave (← eval call context e scope)
  | .throw e, scope => do Run.throwValue (← eval call context e scope)

/-- Runs statements below the top level until one returns. -/
def execAll (call : Value → List Value → Watched Value) (context : ObjectId) :
    List Loose.Stmt → Scope → Watched Flow
  | [], _ => return .next
  | stmt :: rest, scope => do
    match ← exec call context stmt scope with
    | .next => execAll call context rest scope
    | .leave v => return .leave v

end

/-- Runs the statements of a block in its scope. -/
def execBlock (call : Value → List Value → Watched Value) (context : ObjectId) (statements : List Loose.Stmt)
    (scope : Scope) : Watched Flow := do
  hoist context scope statements
  execAll call context statements scope

/-- Calls a function that is no script; what `JSON.parse` stops at is told apart. -/
def callNative (operation : Operation) (args : List Value) : Watched Value :=
  match operation with
  | .parseJson => fun s =>
    (((Run.callNative .parseJson args).run s).1.mapError .ofError, ((Run.callNative .parseJson args).run s).2)
  | operation => Run.callNative operation args

/-- Calls a value, given how functions are called. -/
def callWith (closure : Closure → List Value → Watched Value) (callee : Value) (args : List Value) : Watched Value :=
  match callee with
  | .native n => callNative n.operation args
  | .function c => closure c args
  | v => do Run.misuse (.notCallable ((← Run.current).display v))

/-- Runs a function in `context`, given how values are called. -/
def runFunction (call : Value → List Value → Watched Value) (context : ObjectId) (c : Closure) (args : List Value) :
    Watched Value := do
  let scope ← Run.openScope c args
  match c.function.body.loosen with
  | .value e => eval call context e scope
  | .block statements =>
    match ← execBlock call context statements scope with
    | .leave v => return v
    | .next => return .undefined

/-- Calls a function from code that runs in `context`, when `n` more calls may be inside one another. -/
def callClosure (context : ObjectId) : (n : Nat) → Closure → List Value → Watched Value
  | 0, _, _ => throw (.other .tooManyCalls)
  | n + 1, c, args => runFunction (callWith (callClosure context n)) context c args

/-- Calls a value from code that runs in `context` and is in no call. -/
def call (context : ObjectId) (callee : Value) (args : List Value) : Watched Value :=
  callWith (callClosure context maxCalls) callee args

/-- Calls a value from outside of scripts; a function runs in the context that it was made in. -/
def callFromOutside (callee : Value) (args : List Value) : Watched Value :=
  match callee with
  | .function c => call c.context callee args
  | v => callWith (fun _ _ => throw (.other .tooManyCalls)) v args

/-- Carries out an export at the top level. -/
def execExport (call : Value → List Value → Watched Value) (context : ObjectId) (scope : Scope) :
    Loose.Export → Watched Unit
  | .defaultValue e => do Run.declare scope defaultBinding (← eval call context e scope) false
  | .defaultFunction (some name) _ _ => do
    Run.declare scope defaultBinding (((← Run.current).lookup? name scope).getD .undefined) false
  | .defaultFunction none params body => do
    Run.declare scope defaultBinding (← newFunction context scope none params body) false
  | .declaration stmt => do
    let _ ← exec call context stmt scope
    return ()
  | .names .. => return ()
  | .allFrom _ => return ()

/-- Runs a statement at the top level. -/
def execItem (call : Value → List Value → Watched Value) (context : ObjectId) (scope : Scope) :
    Loose.Stmt → Watched Flow
  | .importing _ => return .next
  | .exporting d => do
    execExport call context scope d
    return .next
  | stmt => exec call context stmt scope

/-- Runs statements at the top level until one returns. -/
def execItems (call : Value → List Value → Watched Value) (context : ObjectId) (scope : Scope) :
    List Loose.Stmt → Watched Unit
  | [] => return ()
  | stmt :: rest => do
    match ← execItem call context scope stmt with
    | .next => execItems call context scope rest
    | .leave _ => return ()

/-- Runs the body of a module in its scope. -/
def runModule (context : ObjectId) (p : Loose.Program) (scope : Scope) : Watched Unit := do
  hoist context scope p.body
  execItems (call context) context scope p.body

/-! ### Trees of sources -/

variable {call : Value → List Value → Watched Value} {context : ObjectId}

theorem run_lift {α : Type} (x : Run α) (s : Store) :
    (monadLift x : Watched α).run s = ((x.run s).1.mapError .other, (x.run s).2) := rfl

theorem lift_bind {α β : Type} (x : Run α) (f : α → Run β) :
    (monadLift (x >>= f) : Watched β) = (monadLift x : Watched α) >>= fun a => (monadLift (f a) : Watched β) := by
  refine ExceptT.ext (funext fun s => ?_)
  rw [Run.run_bind, run_lift, run_lift, Run.run_bind]
  cases x.run s with
  | mk result s' => cases result <;> rfl

theorem newFunction_loosen (scope : Scope) (name : Option String) (params : List String) (body : List Stmt) :
    newFunction context scope name params (.block (loosenBlock body))
      = (monadLift (Run.newFunction context scope ⟨name, params, .block body⟩) : Watched Value) := by
  have hbody : (Loose.Body.block (loosenBlock body)).tighten? = some (.block body) := (Body.block body).tighten?_loosen
  unfold newFunction
  rw [hbody]

theorem newFunction_loosen_value (scope : Scope) (params : List String) (e : Expr) :
    newFunction context scope none params (.value e.loosen)
      = (monadLift (Run.newClosure context scope ⟨none, params, .value e⟩) : Watched Value) := by
  have hbody : (Loose.Body.value e.loosen).tighten? = some (.value e) := (Body.value e).tighten?_loosen
  unfold newFunction
  rw [hbody]

theorem newDeclared_loosen (scope : Scope) (name : String) (params : List String) (body : List Stmt) :
    newDeclared context scope name params (.block (loosenBlock body))
      = (monadLift (Run.newClosure context scope ⟨some name, params, .block body⟩) : Watched Value) := by
  have hbody : (Loose.Body.block (loosenBlock body)).tighten? = some (.block body) := (Body.block body).tighten?_loosen
  unfold newDeclared
  rw [hbody]

/-- A statement in front of others is hoisted first. -/
theorem hoist_cons (scope : Scope) (d : Declaration) {stmt : Loose.Stmt} {rest : List Loose.Stmt} {x : Run Unit}
    (hstmt : declared? stmt = declared? d.loosen)
    (hrest : hoist context scope rest = (monadLift x : Watched Unit)) :
    hoist context scope (stmt :: rest)
      = (monadLift (do Run.hoistDeclaration context scope d; x : Run Unit) : Watched Unit) := by
  rw [hoist, hstmt, hrest]
  cases d with
  | constant name e => rfl
  | function name params body =>
    simp only [Declaration.loosen, declared?, newDeclared_loosen, Run.hoistDeclaration, lift_bind, bind_assoc]
  | _ kind name init => cases init <;> rfl

theorem hoist_loosenBlock (scope : Scope) (statements : List Stmt) :
    hoist context scope (loosenBlock statements) = (monadLift (Run.hoist context scope statements) : Watched Unit) := by
  induction statements with
  | nil => rfl
  | cons stmt rest ih =>
    cases stmt with
    | declare d => exact hoist_cons scope d rfl ih
    | branch test consequent alternate => cases alternate <;> exact ih
    | leave e => cases e <;> exact ih
    | _ => exact ih

/-- `typeof` asks what its operand is, unless that is a name. -/
theorem eval_typeof {e : Loose.Expr} (he : ∀ x, e ≠ .name x) (scope : Scope) :
    eval call context (.unary .typeof e) scope = do return .string (← eval call context e scope).typeName := by
  rw [eval]
  exact fun x _ h => he x h

theorem unary_loosen {op : UnaryOp} {e : Expr} {scope : Scope}
    (he : eval call context e.loosen scope = Run.eval call context e scope) :
    eval call context (.unary op e.loosen) scope = Run.eval call context (.unary op e) scope := by
  cases op with
  | not => simp only [eval, Run.eval, he]
  | negate => simp only [eval, Run.eval, he]
  | typeof =>
    by_cases hname : ∃ x, e = .name x
    · obtain ⟨x, rfl⟩ := hname
      simp only [Expr.loosen, eval, Run.eval]
    · have hne : ∀ x, e ≠ .name x := fun x h => hname ⟨x, h⟩
      have hloose : ∀ x, e.loosen ≠ .name x := fun x h => by
        cases e with
        | name y => exact hne y rfl
        | _ => simp [Expr.loosen] at h
      rw [eval_typeof hloose, Simulation.eval_typeof _ _ hne, he]

mutual

/-- **Expressions of sources** are run as they are. -/
theorem eval_loosen : ∀ (e : Expr) (scope : Scope), eval call context e.loosen scope = Run.eval call context e scope
  | .number _, _ => by simp only [Expr.loosen, eval, Run.eval]
  | .string _, _ => by simp only [Expr.loosen, eval, Run.eval]
  | .bool _, _ => by simp only [Expr.loosen, eval, Run.eval]
  | .null, _ => by simp only [Expr.loosen, eval, Run.eval]
  | .name _, _ => by simp only [Expr.loosen, eval, Run.eval]
  | .array items, scope => by simp only [Expr.loosen, eval, Run.eval, evalList_loosen items]
  | .object entries, scope => by simp only [Expr.loosen, eval, Run.eval, evalEntries_loosen entries]
  | .member e _, scope => by simp only [Expr.loosen, eval, Run.eval, eval_loosen e]
  | .index e i, scope => by simp only [Expr.loosen, eval, Run.eval, eval_loosen e, eval_loosen i]
  | .call callee args, scope => by simp only [Expr.loosen, eval, Run.eval, eval_loosen callee, evalList_loosen args]
  | .function name params body, scope => by simp only [Expr.loosen, eval, Run.eval, newFunction_loosen]
  | .arrow params e, scope => by simp only [Expr.loosen, eval, Run.eval, newFunction_loosen_value]
  | .unary _ e, scope => unary_loosen (eval_loosen e scope)
  | .binary _ a b, scope => by simp only [Expr.loosen, eval, Run.eval, eval_loosen a, eval_loosen b]
  | .logical op a b, scope => by
    rw [Expr.loosen, eval, Run.eval, eval_loosen a]
    refine bind_congr fun x => ?_
    cases op <;> cases x.isTruthy
    · rfl
    · exact eval_loosen b scope
    · exact eval_loosen b scope
    · rfl
  | .conditional test a b, scope => by
    simp only [Expr.loosen, eval, Run.eval, eval_loosen test, eval_loosen a, eval_loosen b]
  | .assign target e, scope => by simp only [Expr.loosen, eval, Run.eval, eval_loosen e, assignTo_loosen target]

theorem assignTo_loosen : ∀ (target : Target) (v : Value) (scope : Scope),
    assignTo call context target.loosen v scope = Run.assignTo call context target v scope
  | .name _, _, _ => by simp only [Target.loosen, assignTo, Run.assignTo]
  | .member e _, v, scope => by simp only [Target.loosen, assignTo, Run.assignTo, eval_loosen e]
  | .index e i, v, scope => by simp only [Target.loosen, assignTo, Run.assignTo, eval_loosen e, eval_loosen i]

theorem evalList_loosen : ∀ (es : List Expr) (scope : Scope),
    evalList call context (loosenList es) scope = Run.evalList call context es scope
  | [], _ => by simp only [loosenList, evalList, Run.evalList]
  | e :: es, scope => by simp only [loosenList, evalList, Run.evalList, eval_loosen e, evalList_loosen es]

theorem evalEntries_loosen : ∀ (es : List (String × Expr)) (scope : Scope),
    evalEntries call context (loosenEntries es) scope = Run.evalEntries call context es scope
  | [], _ => by simp only [loosenEntries, evalEntries, Run.evalEntries]
  | (_, e) :: es, scope => by
    simp only [loosenEntries, evalEntries, Run.evalEntries, eval_loosen e, evalEntries_loosen es]

end

theorem execDeclaration_loosen (scope : Scope) (d : Declaration) :
    exec call context d.loosen scope = do
      Run.execDeclaration call context scope d
      return .next := by
  cases d with
  | constant name e => simp only [Declaration.loosen, exec, Run.execDeclaration, eval_loosen, bind_assoc]
  | function name params body => simp only [Declaration.loosen, exec, Run.execDeclaration, pure_bind]
  | _ kind name init =>
    cases init with
    | none => simp only [Declaration.loosen, exec, Run.execDeclaration]
    | some e => simp only [Declaration.loosen, exec, Run.execDeclaration, eval_loosen, bind_assoc]

mutual

/-- **Statements of sources** are run as they are. -/
theorem exec_loosen : ∀ (stmt : Stmt) (scope : Scope),
    exec call context stmt.loosen scope = Run.exec call context stmt scope
  | .declare d, scope => by
    simp only [Stmt.loosen, Run.exec, execDeclaration_loosen]
  | .eval e, scope => by simp only [Stmt.loosen, exec, Run.exec, eval_loosen]
  | .branch test consequent none, scope => by
    simp only [Stmt.loosen, exec, Run.exec, eval_loosen, hoist_loosenBlock, execAll_loosen consequent]
  | .branch test consequent (some alternate), scope => by
    simp only [Stmt.loosen, exec, Run.exec, eval_loosen, hoist_loosenBlock, execAll_loosen consequent,
      execAll_loosen alternate]
  | .leave none, _ => by simp only [Stmt.loosen, exec, Run.exec]
  | .leave (some e), scope => by simp only [Stmt.loosen, exec, Run.exec, eval_loosen]
  | .throw e, scope => by simp only [Stmt.loosen, exec, Run.exec, eval_loosen]

theorem execAll_loosen : ∀ (statements : List Stmt) (scope : Scope),
    execAll call context (loosenBlock statements) scope = Run.execAll call context statements scope
  | [], _ => by simp only [loosenBlock, execAll, Run.execAll]
  | stmt :: rest, scope => by
    simp only [loosenBlock, execAll, Run.execAll, exec_loosen stmt]
    refine bind_congr fun flow => ?_
    cases flow with
    | next => exact execAll_loosen rest scope
    | leave v => rfl

end

/-- **Functions of sources** are run as they are. -/
theorem runFunction_loosen (c : Closure) (args : List Value) :
    runFunction call context c args = Run.runFunction call context c args := by
  unfold runFunction Run.runFunction
  refine bind_congr fun scope => ?_
  cases c.function.body with
  | value e => exact eval_loosen e scope
  | block statements =>
    have hblock : execBlock call context (loosenBlock statements) scope
        = Run.execBlock call context statements scope := by
      rw [execBlock, hoist_loosenBlock]
      exact bind_congr fun _ => execAll_loosen statements scope
    refine (congrArg (· >>= _) hblock).trans (bind_congr fun flow => ?_)
    cases flow <;> rfl

theorem execItem_loosen (scope : Scope) (i : Item) :
    execItem call context scope i.loosen = Run.execItem call context scope i := by
  cases i with
  | importing i => rfl
  | statement stmt =>
    have hstmt : execItem call context scope stmt.loosen = exec call context stmt.loosen scope := by
      cases stmt with
      | declare d =>
        cases d with
        | constant name e => rfl
        | function name params body => rfl
        | _ kind name init => cases init <;> rfl
      | branch test consequent alternate => cases alternate <;> rfl
      | leave e => cases e <;> rfl
      | _ => rfl
    exact hstmt.trans (exec_loosen stmt scope)
  | exporting d =>
    cases d with
    | defaultValue e => simp only [Item.loosen, execItem, execExport, Run.execItem, eval_loosen, bind_assoc]
    | defaultFunction name params body => simp only [Item.loosen, execItem, execExport, Run.execItem, bind_assoc]
    | declaration d =>
      simp only [Item.loosen, execItem, execExport, Run.execItem, execDeclaration_loosen, bind_assoc, pure_bind]
    | _ => simp only [Item.loosen, execItem, execExport, Run.execItem, pure_bind]

theorem execItems_loosen (scope : Scope) (items : List Item) :
    execItems call context scope (items.map Item.loosen) = Run.execItems call context scope items := by
  induction items with
  | nil => rfl
  | cons i rest ih =>
    rw [List.map_cons, execItems, Run.execItems, execItem_loosen]
    refine bind_congr fun flow => ?_
    cases flow with
    | next => exact ih
    | leave v => rfl

theorem hoist_items (scope : Scope) (items : List Item) :
    hoist context scope (items.map Item.loosen) = (monadLift (Run.hoistItems context scope items) : Watched Unit) := by
  induction items with
  | nil => rfl
  | cons i rest ih =>
    cases i with
    | importing i => exact ih
    | statement stmt =>
      cases stmt with
      | declare d => exact hoist_cons scope d rfl ih
      | branch test consequent alternate => cases alternate <;> exact ih
      | leave e => cases e <;> exact ih
      | _ => exact ih
    | exporting d =>
      cases d with
      | defaultFunction name params body => exact hoist_cons scope (.function name params body) rfl ih
      | declaration d =>
        refine hoist_cons scope d ?_ ih
        cases d with
        | constant name e => rfl
        | function name params body => rfl
        | _ kind name init => cases init <;> rfl
      | _ => exact ih

/-! ### What is watched is what happens -/

/-- Watched, a step does what it does, and an error of `JSON.parse` is told apart from the others. -/
def watching : Simulation Run Watched where
  Rel x y := ∀ s, y.run s = ((x.run s).1.mapError .ofError, (x.run s).2)
  pure _ _ := rfl
  bind {α β x y f g} hx hf s := by
    rw [Run.run_bind, Run.run_bind, hx]
    cases x.run s with
    | mk result s' =>
      cases result with
      | ok a => exact hf a s'
      | error e => rfl
  lift {α x} hx s := by
    rw [run_lift]
    have hs := hx s
    cases hrun : x.run s with
    | mk result s' =>
      cases result with
      | ok a => rfl
      | error e =>
        rw [hrun] at hs
        cases hs e rfl <;> rfl

theorem callNative_watched (operation : Operation) (args : List Value) :
    watching.Rel (Run.callNative operation args) (callNative operation args) := by
  by_cases h : operation = .parseJson
  · subst h
    exact fun _ => rfl
  · have hlift : callNative operation args = (monadLift (Run.callNative operation args) : Watched Value) := by
      cases operation with
      | parseJson => exact absurd rfl h
      | _ => rfl
    rw [hlift]
    exact watching.lift (Run.plain_callNative h args)

theorem callWith_watched {closure : Closure → List Value → Run Value} {closure' : Closure → List Value → Watched Value}
    (h : ∀ c args, watching.Rel (closure c args) (closure' c args)) :
    watching.Calls (Run.callWith closure) (callWith closure') := by
  intro callee args
  cases callee with
  | function c => exact h c args
  | native n => exact callNative_watched n.operation args
  | _ => exact Simulation.bind_current fun s => watching.lift (Run.plain_misuse _)

/-- **Calls of functions** do what they do when they are watched. -/
theorem callClosure_watched (context : ObjectId) (n : Nat) (c : Closure) (args : List Value) :
    watching.Rel (Run.callClosure context n c args) (callClosure context n c args) := by
  induction n generalizing c args with
  | zero => exact fun _ => rfl
  | succ n ih =>
    rw [callClosure, runFunction_loosen]
    exact Simulation.runFunction (callWith_watched ih) c args

theorem callFromOutside_watched (callee : Value) (args : List Value) :
    watching.Rel (Run.callFromOutside callee args) (callFromOutside callee args) := by
  have hrefused : watching.Calls (Run.callWith fun _ _ => throw .tooManyCalls)
      (callWith fun _ _ => throw (.other .tooManyCalls)) := callWith_watched fun _ _ _ => rfl
  unfold Run.callFromOutside callFromOutside
  cases callee with
  | function c => exact callWith_watched (callClosure_watched c.context maxCalls) (.function c) args
  | _ => exact hrefused _ args

/-- **Modules of sources** do what they do when they are watched. -/
theorem runModule_watched (context : ObjectId) (p : Program) (scope : Scope) :
    watching.Rel (Run.runModule context p scope) (runModule context p.loosen scope) := by
  have hloose : runModule context p.loosen scope = Run.runModuleWith (call context) context p scope := by
    rw [runModule, Program.loosen, hoist_items, execItems_loosen]
    rfl
  rw [hloose]
  exact Simulation.runModuleWith (callWith_watched (callClosure_watched context maxCalls)) p scope

/-- An error of syntax that was told apart comes from `JSON.parse`. -/
theorem parsing_of_isSyntax {α : Type} {result : Except EvalError α} {stop : Stop}
    (h : result.mapError .ofError = .error stop) (hstop : stop.IsSyntax) :
    ∃ e, stop = .parsing e ∧ result = .error (.badJson e) := by
  cases result with
  | ok a => cases h
  | error e =>
    cases h
    cases e with
    | badJson e => exact ⟨e, rfl, rfl⟩
    | _ => exact hstop.elim

/-- While it is watched, `x` happens as it does otherwise, and an error of syntax in it comes from a call of
`JSON.parse`. -/
def StopsParsing {α : Type} (x : Run α) (y : Watched α) : Prop :=
  ∀ s, y.run s = ((x.run s).1.mapError .ofError, (x.run s).2) ∧
    ∀ stop, (y.run s).1 = .error stop → stop.IsSyntax →
      ∃ e, stop = .parsing e ∧ (x.run s).1 = .error (.badJson e)

theorem stopsParsing_of_watched {α : Type} {x : Run α} {y : Watched α} (h : watching.Rel x y) : StopsParsing x y := by
  intro s
  refine ⟨h s, fun stop hstop hsyntax => ?_⟩
  rw [h s] at hstop
  exact parsing_of_isSyntax hstop hsyntax

/-- **Programs have no errors of syntax but those of `JSON.parse`.**  The tree of a program is well formed.  If running
it, or calling whatever value with whatever arguments afterwards, stops at an error of syntax, then in a call of
`JSON.parse`; and with or without somebody watching, the same happens. -/
theorem program_runs (p : Program) :
    p.loosen.WellFormed ∧
    (∀ context scope, StopsParsing (Run.runModule context p scope) (runModule context p.loosen scope)) ∧
    ∀ callee args, StopsParsing (Run.callFromOutside callee args) (callFromOutside callee args) :=
  ⟨p.wellFormed_loosen, fun context scope => stopsParsing_of_watched (runModule_watched context p scope),
    fun callee args => stopsParsing_of_watched (callFromOutside_watched callee args)⟩

/-- **Scripts that are accepted have no errors of syntax but those of `JSON.parse`,** since what is accepted is a
program. -/
theorem accepted_runs (source : String) :
    match parse source with
    | .error _ => True
    | .ok p =>
      p.loosen.WellFormed ∧
      (∀ context scope, StopsParsing (Run.runModule context p scope) (runModule context p.loosen scope)) ∧
      ∀ callee args, StopsParsing (Run.callFromOutside callee args) (callFromOutside callee args) := by
  cases parse source with
  | error e => trivial
  | ok p => exact program_runs p

/-- A script that parses what is no JSON. -/
theorem accepted_runs_parsing :
    let s : Store := { Store.empty ⟨none, "/tmp", none, [], 1, "linux", "x64"⟩ with
      objects := #[[("JSON", .object 1)], [("parse", .native ⟨0, "parse", .parseJson⟩)]], frames := #[[]] }
    ∃ p e, parse "JSON.parse('?');" = .ok p ∧ p.loosen.WellFormed ∧
      ((runModule 0 p.loosen [0]).run s).1 = .error (.parsing e) ∧
      ((Run.runModule 0 p [0]).run s).1 = .error (.badJson e) := by
  intro s
  have haccepted : (parse "JSON.parse('?');").isOk := by decide +kernel
  have hstops : (match ((runModule 0 ((parse "JSON.parse('?');").toOption.getD ⟨[]⟩).loosen [0]).run s).1 with
      | .error (.parsing _) => true
      | _ => false) = true := by decide +kernel
  cases hparse : parse "JSON.parse('?');" with
  | error e =>
    rw [hparse] at haccepted
    cases haccepted
  | ok p =>
    rw [hparse] at hstops
    change (match ((runModule 0 p.loosen [0]).run s).1 with
      | .error (.parsing _) => true
      | _ => false) = true at hstops
    have haccepts := accepted_runs "JSON.parse('?');"
    rw [hparse] at haccepts
    obtain ⟨hwellFormed, hruns, -⟩ := haccepts
    cases hresult : ((runModule 0 p.loosen [0]).run s).1 with
    | ok a => rw [hresult] at hstops; cases hstops
    | error stop =>
      cases stop with
      | parsing e =>
        obtain ⟨e', he, hplain⟩ := (hruns 0 [0] s).2 _ hresult trivial
        cases he
        exact ⟨p, e, rfl, hwellFormed, hresult, hplain⟩
      | _ => rw [hresult] at hstops; cases hstops

/-- An import inside a function, an assignment to a sum and a constant without a value are not accepted. -/
example : (parse "function f() \x7b import 'x'; \x7d").isOk = false ∧ (parse "a + b = c;").isOk = false ∧
    (parse "const x;").isOk = false := by decide +kernel

end Watched
end Script
end ScriptImport
