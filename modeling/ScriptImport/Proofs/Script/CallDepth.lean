/-
# Counting the calls

`callClosure n` is told how many more calls may be inside one another.  Here the calls are counted instead,
as they happen: a machine has a counter that goes up when the body of a function starts and down when it has
ended, whether it succeeded or failed, and a function is refused when the counter stands at `maxCalls`.
Nothing else bounds the calls, so such a run might go on for ever; `Counted` bounds it by fuel from outside,
and a run for which the fuel is not enough has no result.

Every run has a result, the counter is afterwards what it was before, and the two ways of counting agree
(`Counted.runs_end`).  The machine writes down each step of each call, so it can be said what happens meanwhile.
-/

import ScriptImport.Proofs.Script.Simulation

namespace ScriptImport
namespace Script

open Syntax

/-- What happens in a call of a function: it is asked for, its body starts, and its body has ended. -/
inductive CallStage where
  | asked
  | entered
  | left
  deriving DecidableEq

/-- A stage of a call, and what the counter shows then. -/
structure CallEvent where
  stage : CallStage
  counter : Nat
  deriving DecidableEq

/-- The store, with a counter of the calls that are inside one another and all that happened in calls. -/
structure Machine where
  store : Store
  counter : Nat
  events : List CallEvent

namespace Machine

/-- Writes down what happens. -/
def note (k : Machine) (stage : CallStage) : Machine :=
  { k with events := k.events ++ [⟨stage, k.counter⟩] }

/-- The body of a function starts. -/
def enter (k : Machine) : Machine := note { k with counter := k.counter + 1 } .entered

/-- The body of a function has ended. -/
def leave (k : Machine) : Machine := note { k with counter := k.counter - 1 } .left

end Machine

/-- What running a script on a machine does, if it ends. -/
abbrev Counted := ExceptT EvalError (StateT Machine Option)

instance : MonadLift Run Counted where
  monadLift x := fun k => some ((x.run k.store).1, { k with store := (x.run k.store).2 })

namespace Counted

/-- Calls a function from code that runs in `context`, unless too many calls are inside one another; with
no fuel left, the call does not end. -/
def callClosure (context : ObjectId) : (fuel : Nat) → Closure → List Value → Counted Value
  | 0, _, _ => fun _ => none
  | fuel + 1, c, args => fun k => do
    let k := k.note .asked
    if maxCalls ≤ k.counter then return (.error .tooManyCalls, k)
    let body : Counted Value := Run.runFunction (Run.callWith (callClosure context fuel)) context c args
    let (result, k) ← body.run k.enter
    return (result, k.leave)

end Counted

/-! ### How many calls are active -/

/-- How many calls are active after a stage of one of them. -/
def CallStage.after (n : Nat) : CallStage → Nat
  | asked => n
  | entered => n + 1
  | left => n - 1

/-- How many calls are active after some events, when `n` were before. -/
def active (n : Nat) (events : List CallEvent) : Nat := events.foldl (fun n e => e.stage.after n) n

/-- In each event the counter shows how many calls are active. -/
def Counts (n : Nat) : List CallEvent → Prop
  | [] => True
  | e :: events => e.counter = e.stage.after n ∧ Counts (e.stage.after n) events

theorem counts_append {n : Nat} {first second : List CallEvent} :
    Counts n (first ++ second) ↔ Counts n first ∧ Counts (active n first) second := by
  induction first generalizing n with
  | nil => exact (iff_of_eq (true_and _)).symm
  | cons e first ih => exact (and_congr_right fun _ => ih).trans and_assoc.symm

/-- What calls may do while `n` others are active: the counter always shows how many are active, it never
shows more than there may be, and in the end all calls that were entered have been left. -/
structure Balanced (n : Nat) (events : List CallEvent) : Prop where
  counts : Counts n events
  bounded : ∀ e ∈ events, e.counter ≤ maxCalls
  settled : active n events = n

theorem balanced_nil (n : Nat) : Balanced n [] := ⟨trivial, nofun, rfl⟩

theorem Balanced.append {n : Nat} {first second : List CallEvent} (hfirst : Balanced n first)
    (hsecond : Balanced n second) : Balanced n (first ++ second) where
  counts := counts_append.2 ⟨hfirst.counts, by rw [hfirst.settled]; exact hsecond.counts⟩
  bounded e he := (List.mem_append.1 he).elim (hfirst.bounded e) (hsecond.bounded e)
  settled := by
    rw [active, List.foldl_append]
    exact (congrArg (active · second) hfirst.settled).trans hsecond.settled

/-- A call that is refused. -/
theorem balanced_refused : Balanced maxCalls [⟨.asked, maxCalls⟩] :=
  ⟨⟨rfl, trivial⟩, by simp, rfl⟩

/-- A call around the calls of its body. -/
theorem Balanced.call {n : Nat} {events : List CallEvent} (hn : n < maxCalls)
    (h : Balanced (n + 1) events) :
    Balanced n (⟨.asked, n⟩ :: ⟨.entered, n + 1⟩ :: (events ++ [⟨.left, n⟩])) where
  counts := by
    have hleft : Counts (active (n + 1) events) [⟨.left, n⟩] := by
      rw [h.settled]
      exact ⟨rfl, trivial⟩
    exact ⟨rfl, rfl, counts_append.2 ⟨h.counts, hleft⟩⟩
  bounded e he := by
    simp only [List.mem_cons, List.mem_append, List.not_mem_nil, or_false] at he
    rcases he with rfl | rfl | he | rfl
    · exact Nat.le_of_lt hn
    · exact hn
    · exact h.bounded e he
    · exact Nat.le_of_lt hn
  settled := by
    have hbody : active (n + 1) (events ++ [⟨.left, n⟩]) = active (active (n + 1) events) [⟨.left, n⟩] :=
      List.foldl_append
    rw [h.settled] at hbody
    exact hbody

/-! ### Runs on a machine -/

namespace Machine

/-- What is written down around the body of a function. -/
theorem leave_enter (k : Machine) (s : Store) (events : List CallEvent) :
    leave ⟨s, (k.note .asked).enter.counter, (k.note .asked).enter.events ++ events⟩
      = ⟨s, k.counter, k.events
          ++ ⟨.asked, k.counter⟩ :: ⟨.entered, k.counter + 1⟩ :: (events ++ [⟨.left, k.counter⟩])⟩ := by
  simp [leave, note, enter]

/-- On the machine `k`, what `x` does ends: the result and the store are those of `y`, and the counter is
what it was.  In between, some events are written down; calls have run out exactly if a function was asked
for while as many calls as may be were active. -/
structure Ends {α : Type} (k : Machine) (x : Counted α) (y : Run α) (events : List CallEvent) : Prop where
  run : x.run k = some ((y.run k.store).1, ⟨(y.run k.store).2, k.counter, k.events ++ events⟩)
  balanced : Balanced k.counter events
  refused : (y.run k.store).1 = .error .tooManyCalls ↔ ⟨.asked, maxCalls⟩ ∈ events

variable {k : Machine} {α β : Type}

theorem Ends.of_callFree {x : Run α} (hx : Run.CallFree x) : k.Ends (monadLift x) x [] where
  run := by rw [List.append_nil]; rfl
  balanced := balanced_nil _
  refused := iff_of_false (hx k.store) List.not_mem_nil

theorem run_bind (x : Counted α) (f : α → Counted β) (k : Machine) :
    (x >>= f).run k = match x.run k with
      | none => none
      | some (.ok a, k') => (f a).run k'
      | some (.error e, k') => some (.error e, k') := by
  rw [ExceptT.run_bind]
  simp only [bind, StateT.bind]
  cases x.run k with
  | none => rfl
  | some ended =>
    obtain ⟨result, k'⟩ := ended
    cases result <;> rfl

/-- One after the other. -/
theorem Ends.bind {x : Counted α} {y : Run α} {f : α → Counted β} {g : α → Run β} {events : List CallEvent}
    (hx : k.Ends x y events)
    (hf : ∀ a, ∀ k' : Machine, k'.counter = k.counter → ∃ events', k'.Ends (f a) (g a) events') :
    ∃ events', k.Ends (x >>= f) (y >>= g) events' := by
  obtain ⟨hrun, hbalanced, hrefused⟩ := hx
  cases hy : y.run k.store with
  | mk result s' =>
    rw [hy] at hrun hrefused
    have hrunY := Run.run_bind y g k.store
    rw [hy] at hrunY
    cases result with
    | error e =>
      refine ⟨events, ?_, hbalanced, ?_⟩
      · rw [run_bind, hrun, hrunY]
      · rw [hrunY, ← hrefused]
        exact ⟨fun h => congrArg _ (Except.error.inj h), fun h => congrArg _ (Except.error.inj h)⟩
    | ok a =>
      obtain ⟨events', hrun', hbalanced', hrefused'⟩ := hf a ⟨s', k.counter, k.events ++ events⟩ rfl
      refine ⟨events ++ events', ?_, hbalanced.append hbalanced', ?_⟩
      · rw [run_bind, hrun, hrunY, ← List.append_assoc]
        exact hrun'
      · have hnot : (⟨.asked, maxCalls⟩ : CallEvent) ∉ events := fun h => nomatch hrefused.2 h
        rw [hrunY, List.mem_append, or_iff_right hnot]
        exact hrefused'

end Machine

namespace Counted

/-- While `n` calls are active, the first does on a machine what the second does. -/
def counting (n : Nat) : Simulation Counted Run where
  Rel x y := ∀ k : Machine, k.counter = n → ∃ events, k.Ends x y events
  pure a k _ := ⟨[], .of_callFree (Run.callFree_pure a)⟩
  bind hx hf k hk := by
    obtain ⟨events, h⟩ := hx k hk
    exact h.bind fun a k' hk' => hf a k' (hk'.trans hk)
  lift hx _ _ := ⟨[], .of_callFree hx.callFree⟩

instance (n : Nat) : (counting n).Natives :=
  ⟨fun operation args _ _ => ⟨[], .of_callFree (Run.callFree_callNative operation args)⟩⟩

variable {k : Machine} {context : ObjectId} {fuel : Nat} {c : Closure} {args : List Value}

/-- A function is refused when the counter is up. -/
theorem callClosure_of_full (h : maxCalls ≤ k.counter) :
    (callClosure context (fuel + 1) c args).run k = some (.error .tooManyCalls, k.note .asked) :=
  if_pos h

/-- A function runs between two changes of the counter. -/
theorem callClosure_of_lt (h : k.counter < maxCalls) {result : Except EvalError Value} {k' : Machine}
    (hbody : (Run.runFunction (Run.callWith (callClosure context fuel)) context c args : Counted Value).run
      (k.note .asked).enter = some (result, k')) :
    (callClosure context (fuel + 1) c args).run k = some (result, k'.leave) := by
  refine (if_neg (Nat.not_le_of_lt h)).trans ?_
  simp only [hbody]
  rfl

/-- **A call ends** when there is more fuel than calls that may still be active. -/
theorem callClosure_ends (context : ObjectId) {n active fuel : Nat} (hactive : active + n = maxCalls)
    (hfuel : n < fuel) (c : Closure) (args : List Value) :
    (counting active).Rel (callClosure context fuel c args) (Run.callClosure context n c args) := by
  intro k hk
  induction n generalizing active fuel c args k with
  | zero =>
    obtain ⟨fuel, rfl⟩ : ∃ fuel', fuel = fuel' + 1 := ⟨fuel - 1, by omega⟩
    obtain rfl : active = maxCalls := hactive
    have hfull : maxCalls ≤ k.counter := Nat.le_of_eq hk.symm
    refine ⟨[⟨.asked, maxCalls⟩], ?_, hk.symm ▸ balanced_refused, iff_of_true rfl (by simp)⟩
    rw [callClosure_of_full hfull, Machine.note, hk]
    rfl
  | succ n ih =>
    obtain ⟨fuel, rfl⟩ : ∃ fuel', fuel = fuel' + 1 := ⟨fuel - 1, by omega⟩
    have hcalls : (counting (active + 1)).Calls (Run.callWith (callClosure context fuel))
        (Run.callWith (Run.callClosure context n)) :=
      Simulation.callWith fun c args => ih (by omega) (by omega) c args
    have hlt : k.counter < maxCalls := by omega
    obtain ⟨events, hrun, hbalanced, hrefused⟩ :=
      Simulation.runFunction hcalls c args (k.note .asked).enter (congrArg (· + 1) hk)
    refine ⟨_, (callClosure_of_lt hlt hrun).trans ?_, Balanced.call hlt hbalanced, ?_⟩
    · rw [Machine.leave_enter]
      rfl
    · have hasked : (⟨.asked, maxCalls⟩ : CallEvent) ≠ ⟨.asked, k.counter⟩ := fun h =>
        Nat.ne_of_gt hlt (CallEvent.mk.inj h).2
      refine hrefused.trans ?_
      simp [hasked]

/-- **Every run ends, and counts its calls right.**  On a machine with a counter that is not above `maxCalls`,
and with more fuel than calls that may still be active, everything that scripts do ends, with a value or an
error, whatever the program, the store and the scope are: calls, expressions, statements and modules.  The
result and the store are those of calls that are told how many more may be inside one another; the counter
is what it was before; it has shown how many calls were active, and never more than `maxCalls`; and calls
have run out exactly if a function was asked for while `maxCalls` calls were active. -/
theorem runs_end (context : ObjectId) {k : Machine} (hk : k.counter ≤ maxCalls) {fuel : Nat}
    (hfuel : maxCalls - k.counter < fuel) :
    let counted := Run.callWith (callClosure context fuel)
    let bounded := Run.callWith (Run.callClosure context (maxCalls - k.counter))
    (∀ callee args, ∃ events, k.Ends (counted callee args) (bounded callee args) events) ∧
    (∀ e scope, ∃ events,
      k.Ends (Run.eval counted context e scope) (Run.eval bounded context e scope) events) ∧
    (∀ stmt scope, ∃ events,
      k.Ends (Run.exec counted context stmt scope) (Run.exec bounded context stmt scope) events) ∧
    (∀ p scope, ∃ events,
      k.Ends (Run.runModuleWith counted context p scope) (Run.runModuleWith bounded context p scope) events) ∧
    (k.counter = 0 → bounded = Run.call context) := by
  intro counted bounded
  have hcalls : (counting k.counter).Calls counted bounded :=
    Simulation.callWith fun c args => callClosure_ends context (by omega) hfuel c args
  refine ⟨fun callee args => hcalls callee args k rfl, fun e scope => Simulation.eval hcalls e scope k rfl,
    fun stmt scope => Simulation.exec hcalls stmt scope k rfl,
    fun p scope => Simulation.runModuleWith hcalls p scope k rfl, fun hzero => ?_⟩
  have hmax : maxCalls - k.counter = maxCalls := by omega
  funext callee args
  exact congrArg (fun n => Run.callWith (Run.callClosure context n) callee args) hmax

/-- The module `function f() { return f(); } f();`. -/
def endless : Program where
  body :=
    [.statement (.declare (.function "f" [] [.leave (some (.call (.name "f") []))])),
      .statement (.eval (.call (.name "f") []))]

/-- A function that calls itself without end, when all but one of the calls are active that may be: the
second call of it is refused. -/
theorem runs_end_endless :
    let s : Store := { Store.empty ⟨none, "/tmp", none, [], 1, "linux", "x64"⟩ with
      objects := #[[]], frames := #[[]] }
    let k : Machine := ⟨s, 63, []⟩
    k.counter ≤ maxCalls ∧ maxCalls - k.counter < 2 ∧ ∃ events,
      k.Ends (Run.runModuleWith (Run.callWith (callClosure 0 2)) 0 endless [0])
        (Run.runModuleWith (Run.callWith (Run.callClosure 0 1)) 0 endless [0]) events ∧
      ⟨.asked, maxCalls⟩ ∈ events := by
  intro s k
  have hk : k.counter ≤ maxCalls := by decide
  have hfuel : maxCalls - k.counter < 2 := by decide
  obtain ⟨-, -, -, hmodules, -⟩ := runs_end 0 hk hfuel
  obtain ⟨events, h⟩ := hmodules endless [0]
  have hover : ((Run.runModuleWith (Run.callWith (Run.callClosure 0 1)) 0 endless [0]).run s).1
      = .error .tooManyCalls := rfl
  exact ⟨hk, hfuel, events, h, h.refused.1 hover⟩

end Counted
end Script
end ScriptImport
