/-
# Why scripts stop by themselves

Apart from calls, what scripts do is made of plain steps: they work with names, properties, scopes and new values,
and if they stop, it is because a name has no value or cannot change, a value cannot be used as it is, or something is
thrown (`EvalError.Plain`).  One such step after the other is plain again (`Raises.bind`).  Functions that are no scripts
are plain, too, except that `JSON.parse` stops at a text that is no JSON (`plain_callNative`); only calling a function
can run out of calls (`callFree_callNative`).
-/

import ScriptImport.Script.Eval
import ScriptImport.Script.Global

namespace ScriptImport
namespace Script

/-- What anything but a call may stop for. -/
inductive EvalError.Plain : EvalError → Prop where
  | unbound (name : String) : Plain (.unbound name)
  | misuse (m : Misuse) : Plain (.misuse m)
  | constant (name : String) : Plain (.constant name)
  | thrown (v : Value) : Plain (.thrown v)

namespace Run

variable {α β : Type} {P : EvalError → Prop}

/-- One step after the other: the second one starts where the first one ended, unless that failed. -/
theorem run_bind {σ ε : Type} (x : ExceptT ε (StateM σ) α) (f : α → ExceptT ε (StateM σ) β) (s : σ) :
    (x >>= f).run s = match x.run s with
      | (.ok a, s') => (f a).run s'
      | (.error e, s') => (.error e, s') := by
  rw [ExceptT.run_bind]
  simp only [bind, StateT.bind]
  cases x.run s with
  | mk result s' => cases result <;> rfl

/-- A step that looks at the state first. -/
theorem run_get_bind {σ ε : Type} (f : σ → ExceptT ε (StateM σ) α) (s : σ) :
    ((get : ExceptT ε (StateM σ) σ) >>= f).run s = (f s).run s := rfl

/-- What a step stops for, if it does. -/
def Raises (P : EvalError → Prop) (x : Run α) : Prop := ∀ s e, (x.run s).1 = .error e → P e

/-- A step that calls nothing. -/
def Plain (x : Run α) : Prop := Raises EvalError.Plain x

/-- A step that never stops because too many calls are inside one another. -/
def CallFree (x : Run α) : Prop := ∀ s, (x.run s).1 ≠ .error .tooManyCalls

theorem callFree_pure (a : α) : CallFree (pure a) := fun _ => nofun

theorem Plain.callFree {x : Run α} (hx : Plain x) : CallFree x := fun s h => nomatch hx s _ h

/-! ### Steps of the store -/

theorem raises_pure (a : α) : Raises P (pure a) := fun _ _ h => nomatch h

theorem Raises.bind {x : Run α} {f : α → Run β} (hx : Raises P x) (hf : ∀ a, Raises P (f a)) :
    Raises P (x >>= f) := by
  intro s e h
  rw [run_bind] at h
  have hs := hx s
  generalize x.run s = ended at h hs
  obtain ⟨result, s'⟩ := ended
  cases result with
  | ok a => exact hf a s' e h
  | error e' => exact hs e (congrArg Except.error (Except.error.inj h))

theorem raises_get : Raises P get := fun _ _ h => nomatch h

theorem raises_modify (f : Store → Store) : Raises P (modify f) := fun _ _ h => nomatch h

theorem raises_modifyGet (f : Store → α × Store) : Raises P (modifyGet f) := fun _ _ h => nomatch h

theorem raises_throw {e : EvalError} (he : P e) : Raises P (throw e : Run α) :=
  fun _ _ h => Except.error.inj h ▸ he

theorem plain_misuse (m : Misuse) : Plain (misuse m : Run α) := raises_throw (.misuse m)

theorem raises_newNative (name : String) (operation : Operation) : Raises P (newNative name operation) :=
  (raises_modifyGet _).bind fun _ => raises_pure _

/-! ### Properties -/

theorem plain_arrayProperty (a : ArrayId) (key : String) : Plain (arrayProperty a key) := by
  refine raises_get.bind fun s => ?_
  by_cases hlength : key = "length"
  · rw [if_pos hlength]
    exact raises_pure _
  rw [if_neg hlength]
  cases index? key with
  | some i => exact raises_pure _
  | none =>
    cases ArrayMethod.ofName? key with
    | some method => exact raises_newNative key _
    | none => exact raises_pure _

theorem plain_stringProperty (text key : String) : Plain (stringProperty text key) := by
  unfold stringProperty
  by_cases hlength : key = "length"
  · rw [if_pos hlength]
    exact raises_pure _
  rw [if_neg hlength]
  cases index? key with
  | some i => exact raises_pure _
  | none =>
    cases StringMethod.ofName? key with
    | some method => exact raises_newNative key _
    | none => exact raises_pure _

theorem plain_getProperty (v : Value) (key : String) : Plain (getProperty v key) := by
  refine raises_get.bind fun s => ?_
  cases v with
  | undefined => exact plain_misuse _
  | null => exact plain_misuse _
  | array a => exact plain_arrayProperty a key
  | string text => exact plain_stringProperty text key
  | function c =>
    dsimp only
    split
    · exact raises_pure _
    · split <;> exact raises_pure _
  | native n =>
    dsimp only
    split <;> exact raises_pure _
  | _ => exact raises_pure _

theorem plain_setProperty (target : Value) (key : String) (v : Value) :
    Plain (setProperty target key v) := by
  refine raises_get.bind fun s => ?_
  cases target with
  | object o => exact raises_modify _
  | array a =>
    dsimp only
    cases index? key with
    | none => exact plain_misuse _
    | some i =>
      dsimp only
      split
      · exact plain_misuse _
      · exact raises_modify _
  | _ => exact plain_misuse _

/-! ### Names and functions -/

theorem plain_declare (scope : Scope) (name : String) (v : Value) (mutable : Bool) :
    Plain (declare scope name v mutable) := by
  cases scope with
  | nil => exact raises_pure _
  | cons f outer => exact raises_modify _

theorem plain_inner (scope : Scope) : Plain (inner scope) :=
  (raises_modifyGet _).bind fun _ => raises_pure _

theorem plain_assign (name : String) (v : Value) (scope : Scope) : Plain (assign name v scope) := by
  induction scope with
  | nil => exact raises_pure _
  | cons f outer ih =>
    refine raises_get.bind fun s => ?_
    cases Dict.get? (s.frame f) name with
    | none => exact ih
    | some b =>
      dsimp only
      split
      · exact (raises_modify _).bind fun _ => raises_pure _
      · exact raises_throw (.constant name)

theorem plain_readName (context : ObjectId) (scope : Scope) (name : String) :
    Plain (readName context scope name) := by
  refine raises_get.bind fun s => ?_
  cases s.resolve? context scope name with
  | some v => exact raises_pure _
  | none => exact raises_throw (.unbound name)

theorem plain_writeName (context : ObjectId) (scope : Scope) (name : String) (v : Value) :
    Plain (writeName context scope name v) := by
  refine (plain_assign name v scope).bind fun assigned => ?_
  split
  · exact raises_pure _
  refine raises_get.bind fun s => ?_
  split
  · exact raises_modify _
  · exact raises_throw (.unbound name)

theorem plain_newClosure (context : ObjectId) (scope : Scope) (function : Syntax.Function) :
    Plain (newClosure context scope function) :=
  (raises_modifyGet _).bind fun _ => raises_pure _

theorem plain_newFunction (context : ObjectId) (scope : Scope) (function : Syntax.Function) :
    Plain (newFunction context scope function) := by
  unfold newFunction
  cases function.name with
  | none => exact plain_newClosure context scope function
  | some name =>
    exact (plain_inner scope).bind fun own => (plain_newClosure context own function).bind fun v =>
      (plain_declare own name v false).bind fun _ => raises_pure _

theorem plain_hoistDeclaration (context : ObjectId) (scope : Scope) (d : Syntax.Declaration) :
    Plain (hoistDeclaration context scope d) := by
  cases d with
  | function name params body =>
    exact (plain_newClosure context scope _).bind fun v => plain_declare scope name v true
  | _ => exact raises_pure _

theorem plain_hoist (context : ObjectId) (scope : Scope) (statements : List Syntax.Stmt) :
    Plain (hoist context scope statements) := by
  induction statements with
  | nil => exact raises_pure _
  | cons stmt rest ih =>
    cases stmt with
    | declare d => exact (plain_hoistDeclaration context scope d).bind fun _ => ih
    | _ => exact ih

theorem plain_hoistItem (context : ObjectId) (scope : Scope) (i : Syntax.Item) :
    Plain (hoistItem context scope i) := by
  unfold hoistItem
  split <;> first | exact plain_hoistDeclaration _ _ _ | exact raises_pure _

theorem plain_hoistItems (context : ObjectId) (scope : Scope) (items : List Syntax.Item) :
    Plain (hoistItems context scope items) := by
  induction items with
  | nil => exact raises_pure _
  | cons i rest ih => exact (plain_hoistItem context scope i).bind fun _ => ih

theorem plain_bindParams (scope : Scope) (params : List String) (args : List Value) :
    Plain (bindParams scope params args) := by
  induction params generalizing args with
  | nil => exact raises_pure _
  | cons p ps ih => exact (plain_declare scope p _ true).bind fun _ => ih args.tail

theorem plain_openScope (c : Closure) (args : List Value) : Plain (openScope c args) := by
  refine raises_get.bind fun s => ?_
  split
  · exact (plain_inner c.scope).bind fun scope =>
      (plain_bindParams scope c.function.params args).bind fun _ => raises_pure _
  · exact (plain_misuse _).bind fun _ => (plain_inner c.scope).bind fun scope =>
      (plain_bindParams scope c.function.params args).bind fun _ => raises_pure _

/-! ### Functions that are no scripts -/

mutual

theorem raises_ofJson : ∀ j : Json, Raises P (ofJson j)
  | .null => by rw [ofJson]; exact raises_pure _
  | .bool _ => by rw [ofJson]; exact raises_pure _
  | .integer _ => by rw [ofJson]; exact raises_pure _
  | .float _ => by rw [ofJson]; exact raises_pure _
  | .string _ => by rw [ofJson]; exact raises_pure _
  | .array items => by
    rw [ofJson]
    exact (raises_ofJsonItems items).bind fun _ => raises_modifyGet _
  | .object members => by
    rw [ofJson]
    exact (raises_ofJsonMembers members).bind fun _ => (raises_modifyGet _).bind fun _ => raises_pure _

theorem raises_ofJsonItems : ∀ js : List Json, Raises P (ofJsonItems js)
  | [] => by rw [ofJsonItems]; exact raises_pure _
  | j :: js => by
    rw [ofJsonItems]
    exact (raises_ofJson j).bind fun _ => (raises_ofJsonItems js).bind fun _ => raises_pure _

theorem raises_ofJsonMembers : ∀ ms : List (String × Json), Raises P (ofJsonMembers ms)
  | [] => by rw [ofJsonMembers]; exact raises_pure _
  | (key, j) :: ms => by
    rw [ofJsonMembers]
    exact (raises_ofJson j).bind fun _ => (raises_ofJsonMembers ms).bind fun _ => raises_pure _

end

theorem plain_print (stream : Stream) (line : String) : Plain (print stream line) := by
  cases stream <;> exact raises_modify _

theorem plain_callArrayMethod (method : ArrayMethod) (a : ArrayId) (args : List Value) :
    Plain (callArrayMethod method a args) := by
  cases method with
  | push => exact (raises_modify _).bind fun _ => raises_get.bind fun _ => raises_pure _
  | _ => exact raises_get.bind fun _ => raises_pure _

/-- **A function that is no script calls none,** and all but `JSON.parse` are plain. -/
theorem plain_callNative {operation : Operation} (h : operation ≠ .parseJson) (args : List Value) :
    Plain (callNative operation args) := by
  refine raises_get.bind fun s => ?_
  cases operation with
  | print stream => exact (plain_print stream _).bind fun _ => raises_pure _
  | stringify =>
    dsimp only
    split
    · exact raises_pure _
    · exact raises_pure _
    · exact plain_misuse _
  | parseJson => exact absurd rfl h
  | arrayMethod method a => exact plain_callArrayMethod method a args
  | _ => exact raises_pure _

/-- `JSON.parse` stops at what is no JSON. -/
theorem raises_parseJson (args : List Value) :
    Raises (fun e => ∃ error, e = .badJson error) (callNative .parseJson args) := by
  refine raises_get.bind fun s => ?_
  dsimp only
  split
  · exact raises_ofJson _
  · exact raises_throw ⟨_, rfl⟩

theorem callFree_callNative (operation : Operation) (args : List Value) : CallFree (callNative operation args) := by
  by_cases h : operation = .parseJson
  · subst h
    intro s hs
    obtain ⟨error, he⟩ := raises_parseJson args s _ hs
    cases he
  · exact (plain_callNative h args).callFree

/-! ### Contexts -/

theorem raises_newLibrary (constants : Dict Value) (functions : List (String × Operation)) :
    Raises P (newLibrary constants functions) := by
  refine Raises.bind ?_ fun _ => (raises_modifyGet _).bind fun _ => raises_pure _
  induction functions with
  | nil => exact raises_pure _
  | cons f functions ih =>
    rw [List.mapM_cons]
    exact ((raises_newNative f.1 f.2).bind fun _ => raises_pure _).bind fun _ => ih.bind fun _ => raises_pure _

/-- **A new context can always be made:** there is nothing to stop for. -/
theorem raises_newContext : Raises P newContext :=
  (raises_newLibrary _ _).bind fun _ => (raises_newLibrary _ _).bind fun _ => (raises_newLibrary _ _).bind fun _ =>
    (raises_newNative _ _).bind fun _ => (raises_newNative _ _).bind fun _ => (raises_newNative _ _).bind fun _ =>
      raises_modifyGet _

end Run
end Script
end ScriptImport
