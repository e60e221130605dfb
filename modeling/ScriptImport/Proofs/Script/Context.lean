/-
# The context in which a function runs

Whoever calls a function from a script runs it in the context of the caller: names that its scope does not
bind are those of the caller's global object, and the functions that it makes belong to the caller's context.
It does what it would do if it had been made there and were called from outside of scripts
(`callClosure_eq_fromOutside`), as long as there are calls to spare.  Called from outside it runs in the
context that it was made in; the two differ when a function gets from one context into another
(`callers_context`).
-/

import ScriptImport.Proofs.Script.Simulation

namespace ScriptImport
namespace Script

/-- A function as if it had been made in another context. -/
def Closure.within (c : Closure) (context : ObjectId) : Closure := { c with context }

namespace Run

variable {context : ObjectId} {s : Store}

/-- The second does what the first does, unless the first runs out of calls. -/
def sparing : Simulation Run Run where
  Rel x y := ∀ s, (x.run s).1 ≠ .error .tooManyCalls → y.run s = x.run s
  pure _ _ _ := rfl
  bind {α β x₁ x₂ f₁ f₂} hx hf s hs := by
    have hfirst : (x₁.run s).1 ≠ .error .tooManyCalls := by
      intro h
      rw [run_bind] at hs
      generalize x₁.run s = ended at h hs
      obtain ⟨result, s'⟩ := ended
      obtain rfl : result = _ := h
      exact hs rfl
    rw [run_bind, run_bind, hx s hfirst]
    rw [run_bind] at hs
    generalize x₁.run s = ended at hs
    obtain ⟨result, s'⟩ := ended
    cases result with
    | ok a => exact hf a s' hs
    | error e => rfl
  lift _ _ _ := rfl

instance : sparing.Natives := ⟨fun _ _ _ _ => rfl⟩

/-- **More calls to spare change nothing** for a function that does not run out of them. -/
theorem callClosure_of_le {n k : Nat} (hnk : n ≤ k) (c : Closure) (args : List Value)
    (h : ((callClosure context n c args).run s).1 ≠ .error .tooManyCalls) :
    (callClosure context k c args).run s = (callClosure context n c args).run s := by
  induction n generalizing k c args s with
  | zero => exact absurd rfl h
  | succ n ih =>
    obtain ⟨k, rfl⟩ : ∃ k', k = k' + 1 := ⟨k - 1, by omega⟩
    have hcalls : sparing.Calls (callWith (callClosure context n)) (callWith (callClosure context k)) :=
      Simulation.callWith fun c args s hs => ih (Nat.le_of_succ_le_succ hnk) c args hs
    exact Simulation.runFunction hcalls c args s h

/-- A call does not look at the context that the function was made in. -/
theorem callClosure_within (context : ObjectId) (n : Nat) (c : Closure) (other : ObjectId)
    (args : List Value) :
    callClosure context n (c.within other) args = callClosure context n c args := by
  cases n <;> rfl

/-- **A function runs in the context of its caller.**  With calls to spare, a function that is called from
code that runs in `context` does what it would do if it had been made in `context` and were called from
outside: the result is the same, and so are the effects and the functions that it makes.  So if it was made
there, it is all the same who calls it. -/
theorem callClosure_eq_fromOutside (context : ObjectId) {n : Nat} (hn : n ≤ maxCalls) (c : Closure)
    (args : List Value) (h : ((callClosure context n c args).run s).1 ≠ .error .tooManyCalls) :
    (callWith (callClosure context n) (.function c) args).run s
        = (callFromOutside (.function (c.within context)) args).run s ∧
      (c.context = context →
        (callWith (callClosure context n) (.function c) args).run s
          = (callFromOutside (.function c) args).run s) := by
  have hmoved : (callWith (callClosure context n) (.function c) args).run s
      = (callFromOutside (.function (c.within context)) args).run s := by
    calc (callClosure context n c args).run s
        = (callClosure context maxCalls c args).run s := (callClosure_of_le hn c args h).symm
      _ = (callClosure context maxCalls (c.within context) args).run s := by rw [callClosure_within]
  refine ⟨hmoved, fun hcontext => ?_⟩
  subst hcontext
  exact hmoved

/-- A store with two contexts; only the global object of the second one has an `x`. -/
def twoContexts : Store :=
  { Store.empty ⟨none, "/tmp", none, [], 1, "linux", "x64"⟩ with
    objects := #[[], [("x", .null)]], frames := #[[]] }

/-- The function `() => typeof x`, made in the first context. -/
def asksForX : Closure := ⟨0, ⟨none, [], .value (.unary .typeof (.name "x"))⟩, [0], 0, .strong⟩

/-- A function that is called once, from its own context. -/
theorem callClosure_eq_fromOutside_own :
    ((callClosure 0 1 asksForX []).run twoContexts).1 ≠ .error .tooManyCalls ∧
      (callWith (callClosure 0 1) (.function asksForX) []).run twoContexts
        = (callFromOutside (.function asksForX) []).run twoContexts := by
  have h : ((callClosure 0 1 asksForX []).run twoContexts).1 ≠ .error .tooManyCalls := nofun
  exact ⟨h, (callClosure_eq_fromOutside 0 (by decide) asksForX [] h).2 rfl⟩

/-- **A function does not take its context along:** called by code of the second context, `() => typeof x`
finds the `x` there, although it was made in the first context and finds no `x` when called from outside. -/
theorem callers_context :
    ((call 1 (.function asksForX) []).run twoContexts).1 = .ok (.string "object") ∧
      ((callFromOutside (.function asksForX) []).run twoContexts).1 = .ok (.string "undefined") ∧
      ¬ ∀ (context : ObjectId) (c : Closure) (args : List Value) (s : Store),
        (call context (.function c) args).run s = (callFromOutside (.function c) args).run s := by
  have hinside : ((call 1 (.function asksForX) []).run twoContexts).1 = .ok (.string "object") := rfl
  have houtside : ((callFromOutside (.function asksForX) []).run twoContexts).1
      = .ok (.string "undefined") := rfl
  refine ⟨hinside, houtside, fun h => ?_⟩
  rw [h, houtside] at hinside
  simp at hinside

end Run
end Script
end ScriptImport
