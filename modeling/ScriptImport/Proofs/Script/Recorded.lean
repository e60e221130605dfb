/-
# Scripts whose stores are recorded

Each step of a script leads from one store to the next.  Here these stores are recorded while a script runs, and it
refuses to call functions that hold their scopes weakly, as if these were gone.  Both change nothing: there are no such
calls (`callFromOutside_recorded`, `runModule_recorded`).  And the stores on the way are such that held values have been
bound only, so all that is said of sound stores holds between any two steps (`Store.GoesThrough`).
-/

import ScriptImport.Proofs.Script.KeepsRuns

namespace ScriptImport
namespace Script

open Syntax

/-- A store, and those that there were after each step before, the last one first. -/
structure Record where
  store : Store
  past : List Store

/-- What running a script does while the stores after each step are recorded. -/
abbrev Recorded := ExceptT EvalError (StateM Record)

instance : MonadLift Run Recorded where
  monadLift x r := ((x.run r.store).1, ⟨(x.run r.store).2, (x.run r.store).2 :: r.past⟩)

namespace Recorded

/-- Calls a function, but refuses one that holds its scope weakly, as if that was gone. -/
def callClosure (context : ObjectId) : (n : Nat) → Closure → List Value → Recorded Value
  | 0, _, _ => throw .tooManyCalls
  | n + 1, c, args =>
    match c.hold with
    | .strong => Run.runFunction (Run.callWith (callClosure context n)) context c args
    | .weak => throw (.misuse (.lostScope (c.function.name.getD "anonymous function")))

/-- Calls a value from code that runs in `context`. -/
def call (context : ObjectId) (callee : Value) (args : List Value) : Recorded Value :=
  Run.callWith (callClosure context maxCalls) callee args

/-- Calls a value from outside of scripts. -/
def callFromOutside (callee : Value) (args : List Value) : Recorded Value :=
  match callee with
  | .function c => call c.context callee args
  | v => Run.callWith (fun _ _ => throw .tooManyCalls) v args

/-- Runs the body of a module. -/
def runModule (context : ObjectId) (p : Program) (scope : Scope) : Recorded Unit :=
  Run.runModuleWith (call context) context p scope

end Recorded

variable {gone : Thing → Bool} {kept : Set Thing} {context : ObjectId} {scope : Scope}

/-! ### Recording changes nothing -/

/-- What is recorded does what the script does, unless a function is refused. -/
def unlessRefused : Simulation Recorded Run where
  Rel x y := ∀ r, (∀ name, (x.run r).1 ≠ .error (.misuse (.lostScope name))) →
    y.run r.store = ((x.run r).1, (x.run r).2.store)
  pure _ _ _ := rfl
  bind {α β x₁ x₂ f₁ f₂} hx hf r hr := by
    have hfirst : ∀ name, (x₁.run r).1 ≠ .error (.misuse (.lostScope name)) := by
      intro name h
      have hrefused := hr name
      rw [Run.run_bind] at hrefused
      generalize x₁.run r = ended at h hrefused
      obtain ⟨result, r'⟩ := ended
      obtain rfl : result = _ := h
      exact hrefused rfl
    rw [Run.run_bind, Run.run_bind, hx r hfirst]
    simp only [Run.run_bind] at hr
    generalize x₁.run r = ended at hr
    obtain ⟨result, r'⟩ := ended
    cases result with
    | ok a => exact hf a r' hr
    | error e => rfl
  lift _ _ _ := rfl

instance : unlessRefused.Natives := ⟨fun _ _ _ _ => rfl⟩

theorem callClosure_unlessRefused (context : ObjectId) (n : Nat) (c : Closure) (args : List Value) :
    unlessRefused.Rel (Recorded.callClosure context n c args) (Run.callClosure context n c args) := by
  induction n generalizing c args with
  | zero => exact fun _ _ => rfl
  | succ n ih =>
    have hcalls : unlessRefused.Calls (Run.callWith (Recorded.callClosure context n))
        (Run.callWith (Run.callClosure context n)) := Simulation.callWith ih
    obtain ⟨identity, function, captured, made, hold⟩ := c
    cases hold with
    | strong => exact Simulation.runFunction hcalls _ args
    | weak => exact fun r hr => absurd rfl (hr _)

/-! ### Stores on the way -/

/-- Binding values leads through all of some stores. -/
structure Store.GoesThrough (gone : Thing → Bool) (s : Store) (binds : List Bind) (moments : List Store) (t : Store) :
    Prop where
  goes : s.Goes gone binds t
  through : ∀ m ∈ moments, ∃ before after, binds = before ++ after ∧ s.Goes gone before m ∧ m.Goes gone after t

namespace Store

variable {s s' t : Store} {binds binds' : List Bind} {moments moments' : List Store}

theorem Goes.goesThrough (h : s.Goes gone binds t) : s.GoesThrough gone binds [t] t :=
  ⟨h, List.forall_mem_singleton.2 ⟨binds, [], (List.append_nil binds).symm, h, .done⟩⟩

theorem GoesThrough.append (h : s.GoesThrough gone binds moments s') (h' : s'.GoesThrough gone binds' moments' t) :
    s.GoesThrough gone (binds ++ binds') (moments' ++ moments) t := by
  refine ⟨h.goes.append h'.goes, List.forall_mem_append.2 ⟨fun m hm => ?_, fun m hm => ?_⟩⟩
  · obtain ⟨before, after, rfl, hbefore, hafter⟩ := h'.through m hm
    exact ⟨binds ++ before, after, (List.append_assoc ..).symm, h.goes.append hbefore, hafter⟩
  · obtain ⟨before, after, rfl, hbefore, hafter⟩ := h.through m hm
    exact ⟨before, after ++ binds', List.append_assoc .., hbefore, hafter.append h'.goes⟩

/-- All stores on the way are sound. -/
theorem GoesThrough.sound (h : s.GoesThrough gone binds moments t) (hs : s.Sound gone) :
    ∀ m ∈ t :: moments, m.Sound gone :=
  List.forall_mem_cons.2 ⟨h.goes.sound hs, fun m hm =>
    let ⟨_, _, _, hbefore, _⟩ := h.through m hm
    hbefore.sound hs⟩

end Store

/-- What a script leads to: what is recorded are stores on the way, and the result is held. -/
structure Record.LeadsTo {α : Type} (gone : Thing → Bool) (K : Grip α) (r : Record)
    (ended : Except EvalError α × Record) : Prop where
  goes : ∃ binds new, ended.2.past = new ++ r.past ∧ r.store.GoesThrough gone binds new ended.2.store
  held : (Grip.evalError.except K).Held (ended.2.store.live gone) ended.1

/-- One after the other. -/
theorem Record.LeadsTo.bind {α β : Type} {K : Grip α} {L : Grip β} {x : Recorded α} {f : α → Recorded β} {r : Record}
    (hx : r.LeadsTo gone K (x.run r))
    (hf : ∀ a (r' : Record), r.store.extent ≤ r'.store.extent → (r.store.Sound gone → r'.store.Sound gone) →
      K.Held (r'.store.live gone) a → r'.LeadsTo gone L ((f a).run r')) : r.LeadsTo gone L ((x >>= f).run r) := by
  rw [Run.run_bind]
  generalize x.run r = ended at hx ⊢
  obtain ⟨result, r'⟩ := ended
  obtain ⟨⟨binds, new, hpast, hgoes⟩, hheld⟩ := hx
  cases result with
  | error e => exact ⟨⟨binds, new, hpast, hgoes⟩, hheld⟩
  | ok a =>
    obtain ⟨⟨binds', new', hpast', hgoes'⟩, hheld'⟩ := hf a r' hgoes.goes.extent_le hgoes.goes.sound hheld
    refine ⟨⟨binds ++ binds', new' ++ new, ?_, hgoes.append hgoes'⟩, hheld'⟩
    rw [hpast', hpast, List.append_assoc]

/-- What is recorded of steps that keep what is held. -/
def recording (gone : Thing → Bool) : Keeping gone Recorded where
  Of K kept x := ∀ r : Record, r.store.Sound gone → kept ⊆ r.store.live gone → r.LeadsTo gone K (x.run r)
  pure {_ K _ _} ha _ _ hsub := ⟨⟨[], [], rfl, .done, nofun⟩, K.mono hsub ha⟩
  bind hx hf r hs hsub := (hx r hs hsub).bind fun a r' hle hsound ha =>
    hf _ a (hsub.trans (Store.live_mono hle)) ha r' (hsound hs) subset_rfl
  lift h r hs hsub := by
    obtain ⟨⟨binds, hgoes⟩, hheld, -⟩ := h r.store hs hsub
    exact ⟨⟨binds, _, rfl, hgoes.goesThrough⟩, hheld⟩
  current {_ _ _ f} h r hs hsub := by
    obtain ⟨⟨binds, new, hpast, hgoes⟩, hheld⟩ := (h r.store hs hsub).2 ⟨r.store, r.store :: r.past⟩ hs subset_rfl
    have hpast : _ = new ++ [r.store] ++ r.past := hpast.trans (List.append_cons ..)
    exact ⟨⟨binds, _, hpast, Store.Goes.done.goesThrough.append hgoes⟩, hheld⟩

/-! ### What is recorded of calls and modules -/

theorem recorded_callClosure (context : ObjectId) (n : Nat) {kept : Set Thing} {c : Closure} {args : List Value}
    (hcontext : .object context ∈ kept) (hc : (Value.function c).Held kept) (hargs : ∀ v ∈ args, v.Held kept) :
    (recording gone).Of .value kept (Recorded.callClosure context n c args) := by
  induction n generalizing kept c args with
  | zero => exact fun _ _ _ => ⟨⟨[], [], rfl, .done, nofun⟩, trivial⟩
  | succ n ih =>
    unfold Recorded.callClosure
    rw [hc.1]
    exact Keeping.runFunction (Keeping.callWith ih) hcontext hc.2 hargs

/-- The stores that `y` goes through from `s` on are recorded by `x`, which comes to the same. -/
def Records {α : Type} (gone : Thing → Bool) (x : Recorded α) (y : Run α) (s : Store) : Prop :=
  ∃ binds moments, x.run ⟨s, []⟩ = ((y.run s).1, ⟨(y.run s).2, moments⟩) ∧
    s.GoesThrough gone binds moments (y.run s).2

variable {s : Store}

/-- What keeps what is held refuses no function. -/
theorem records_of_recording {α : Type} {K : Grip α} {x : Recorded α} {y : Run α} (hsame : unlessRefused.Rel x y)
    (h : (recording gone).Of K kept x) (hs : s.Sound gone) (hsub : kept ⊆ s.live gone) : Records gone x y s := by
  obtain ⟨⟨binds, moments, hpast, hgoes⟩, hheld⟩ := h ⟨s, []⟩ hs hsub
  have hy : y.run s = _ := hsame ⟨s, []⟩ fun name hrefused => by
    rw [hrefused] at hheld
    exact hheld
  rw [List.append_nil] at hpast
  refine ⟨binds, moments, ?_, ?_⟩
  · rw [hy, ← hpast]
    rfl
  · rw [hy]
    exact hgoes

/-- **All functions that are called hold their scopes strongly,** and between any two steps of a call only held values
have been bound. -/
theorem callFromOutside_recorded (hs : s.Sound gone) {callee : Value} (hcallee : callee.Held (s.live gone))
    {args : List Value} (hargs : ∀ v ∈ args, v.Held (s.live gone)) :
    Records gone (Recorded.callFromOutside callee args) (Run.callFromOutside callee args) s := by
  have hcalls : unlessRefused.Calls (Run.callWith fun _ _ => throw .tooManyCalls)
      (Run.callWith fun _ _ => throw .tooManyCalls) := Simulation.callWith fun _ _ _ _ => rfl
  cases callee with
  | function c =>
    exact records_of_recording (callClosure_unlessRefused c.context maxCalls c args)
      (recorded_callClosure c.context maxCalls hcallee.2.context hcallee hargs) hs subset_rfl
  | _ =>
    exact records_of_recording (hcalls _ args)
      (Keeping.callWith_of (fun _ _ => throw .tooManyCalls) hcallee hargs fun _ h => nomatch h) hs subset_rfl

/-- **All functions that the code of a module calls hold their scopes strongly,** and between any two of its steps only
held values have been bound. -/
theorem runModule_recorded (hs : s.Sound gone) (p : Program) (hstands : Stands (s.live gone) context scope) :
    Records gone (Recorded.runModule context p scope) (Run.runModule context p scope) s := by
  have hcalls : unlessRefused.Calls (Recorded.call context) (Run.call context) :=
    Simulation.callWith (callClosure_unlessRefused context maxCalls)
  have hrecorded : (recording gone).Calls context (Recorded.call context) :=
    Keeping.callWith (recorded_callClosure context maxCalls)
  exact records_of_recording (Simulation.runModuleWith hcalls p scope) (Keeping.runModuleWith hrecorded p hstands) hs
    subset_rfl

end Script
end ScriptImport
