/-
# Functions survive being stored

A function that is bound in the scope that it captured is held weakly there, so that the two can be freed.  Nobody
notices (`Loader.functions_survive`).  Whatever is loaded and called, and at every moment on the way: functions hold
their scopes weakly in the first frames of these only; looking up a name gives back the very function that it has been
bound to last, with a strong hold on its scope; and no call finds that a function has lost its scope, also if all has
been freed that only others name.
-/

import ScriptImport.Proofs.Isolation
import ScriptImport.Proofs.Module.Keeps
import ScriptImport.Proofs.Script.Recorded

namespace ScriptImport

open Script

namespace Script

variable {gone : Thing → Bool} {s s' t : Store} {binds : List Bind} {f : FrameId} {name : String} {v : Value}
  {mutable : Bool}

/-! ### Names -/

/-- From here on, until it is bound again in this frame, a name has this value in all scopes in which it is found in
this frame. -/
def Store.Lasts (s : Store) (f : FrameId) (name : String) (v : Value) : Prop :=
  ∀ {binds : List Bind} {t : Store}, s.Goes nothing binds t → (∀ b ∈ binds, b.frame = f → b.name ≠ name) →
    ∀ {inner outer : Scope}, (∀ g ∈ inner, Dict.get? (t.frame g) name = none) →
      t.lookup? name (inner ++ f :: outer) = some v

theorem Store.lasts_bound (hf : .frame f ∈ s.live nothing) (hv : v.Held (s.live nothing)) :
    (s.bound f name v mutable).Lasts f name v := fun h hother _ _ hinner =>
  (Goes.bind hf hv h).lookup?_last ⟨[], _, rfl, hother⟩ hinner

/-- Declaring a name binds it in the innermost frame. -/
theorem Run.declare_lasts {scope : Scope} (hscope : Scope.Held (s.live nothing) scope) (hv : v.Held (s.live nothing)) :
    ∃ f outer s', scope = f :: outer ∧ (Run.declare scope name v mutable).run s = (.ok (), s') ∧ s'.Lasts f name v := by
  cases scope with
  | nil => exact absurd rfl hscope.ne_nil
  | cons f outer => exact ⟨f, outer, _, rfl, rfl, Store.lasts_bound (hscope.mem f (List.mem_cons_self ..)) hv⟩

/-- Assigning to a name binds it in the frame in which it is found. -/
theorem Run.eq_bound_of_assign {scope : Scope} (h : (Run.assign name v scope).run s = (.ok true, s')) :
    ∃ inner f outer, scope = inner ++ f :: outer ∧ (∀ g ∈ inner, Dict.get? (s.frame g) name = none) ∧
      Dict.get? (s.frame f) name ≠ none ∧ s' = s.bound f name v true := by
  induction scope with
  | nil => cases h
  | cons f outer ih =>
    rw [Run.assign, Run.run_get_bind] at h
    cases hb : Dict.get? (s.frame f) name with
    | some b =>
      obtain ⟨held, mutable⟩ := b
      rw [hb] at h
      cases mutable with
      | false => cases h
      | true => exact ⟨[], f, outer, rfl, nofun, by simp [hb], (congrArg Prod.snd h).symm⟩
    | none =>
      rw [hb] at h
      obtain ⟨inner, g, outer', rfl, hinner, hfound, hs'⟩ := ih h
      exact ⟨f :: inner, g, outer', rfl, List.forall_mem_cons.2 ⟨hb, hinner⟩, hfound, hs'⟩

theorem Run.assign_lasts {scope : Scope} (hscope : ∀ f ∈ scope, .frame f ∈ s.live nothing)
    (hv : v.Held (s.live nothing)) (h : (Run.assign name v scope).run s = (.ok true, s')) :
    ∃ inner f outer, scope = inner ++ f :: outer ∧ (∀ g ∈ inner, Dict.get? (s'.frame g) name = none) ∧
      s'.Lasts f name v := by
  obtain ⟨inner, f, outer, rfl, hinner, hfound, rfl⟩ := Run.eq_bound_of_assign h
  have hf := hscope f (by simp)
  refine ⟨inner, f, outer, rfl, fun g hg => ?_, Store.lasts_bound hf hv⟩
  have hne : ¬ (g = f ∧ name = name) := fun heq => hfound (heq.1 ▸ hinner g hg)
  rw [Store.get?_frame_bound hf.1, if_neg hne]
  exact hinner g hg

/-! ### Scripts -/

/-- What is said of running a script: it runs as `y`, and `x` records the stores on the way. -/
structure Survives {α : Type} (gone : Thing → Bool) (K : Grip α) (x : Recorded α) (y : Run α) (s : Store) : Prop where
  /-- No function is called that holds its scope weakly, and at no moment anything has been bound but held values. -/
  recorded : Records gone x y s
  /-- What comes of it is held. -/
  held : ∀ a, (y.run s).1 = .ok a → K.Held ((y.run s).2.live gone) a
  /-- What it throws is held. -/
  thrown : ∀ v, (y.run s).1 = .error (.thrown v) → v.Held ((y.run s).2.live gone)
  /-- No function has lost its scope. -/
  not_lost : ∀ name, (y.run s).1 ≠ .error (.misuse (.lostScope name))
  /-- It comes to the same if what is gone has been freed before. -/
  freed : y.run (s.free gone) = ((y.run s).1, (y.run s).2.free gone)

theorem Survives.of_keeps {α : Type} {K : Grip α} {kept : Set Thing} {x : Recorded α} {y : Run α}
    (h : Keeps gone K kept y) (hs : s.Sound gone) (hsub : kept ⊆ s.live gone) (hrecorded : Records gone x y s) :
    Survives gone K x y s := by
  obtain ⟨-, hheld, hfreed⟩ := h s hs hsub
  have hheld : (Grip.evalError.except K).Held ((y.run s).2.live gone) (y.run s).1 := hheld
  refine ⟨hrecorded, fun a ha => ?_, fun v hv => ?_, fun name hlost => ?_, hfreed⟩
  · rwa [ha] at hheld
  · rwa [hv] at hheld
  · rwa [hlost] at hheld

/-- What is said of functions at a moment. -/
structure Store.KeepsFunctions (s : Store) : Prop where
  /-- Functions hold their scopes weakly in the first frames of these, and nowhere else. -/
  held : s.WellHeld
  /-- What is looked up holds its scope strongly. -/
  lookup? : ∀ {name : String} {scope : Scope} {v : Value}, s.lookup? name scope = some v → v.Held (s.live nothing)
  /-- Looking up needs no other frames than those of the scope. -/
  alone : ∀ {alive : FrameId → Bool} {scope : Scope}, (∀ f ∈ scope, alive f = true) → ∀ name,
    s.lookupWhile? alive name scope = s.lookup? name scope
  /-- What is declared lasts until the name is bound again. -/
  declared : ∀ {scope : Scope} {name : String} {v : Value} {mutable : Bool}, Scope.Held (s.live nothing) scope →
    v.Held (s.live nothing) → ∃ f outer s', scope = f :: outer ∧
      (Run.declare scope name v mutable).run s = (.ok (), s') ∧ s'.Lasts f name v
  /-- What is assigned lasts until the name is bound again. -/
  assigned : ∀ {scope : Scope} {name : String} {v : Value} {s' : Store}, Scope.Held (s.live nothing) scope →
    v.Held (s.live nothing) → (Run.assign name v scope).run s = (.ok true, s') →
      ∃ inner f outer, scope = inner ++ f :: outer ∧ (∀ g ∈ inner, Dict.get? (s'.frame g) name = none) ∧
        s'.Lasts f name v
  /-- What is called finds the scopes of functions, also if nothing is left but what the call itself names. -/
  calls : ∀ {gone : Thing → Bool} {callee : Value} {args : List Value}, s.Sound gone → callee.Held (s.live gone) →
    (∀ v ∈ args, v.Held (s.live gone)) →
      Survives gone .value (Recorded.callFromOutside callee args) (Run.callFromOutside callee args) s
  /-- So does the code of a module. -/
  modules : ∀ {gone : Thing → Bool} {context : ObjectId} {scope : Scope} (p : Syntax.Program), s.Sound gone →
    Stands (s.live gone) context scope →
      Survives gone (.any Unit) (Recorded.runModule context p scope) (Run.runModule context p scope) s

/-- **At every moment at which only held values have been bound,** functions are kept. -/
theorem Store.Sound.keepsFunctions (hs : s.WellHeld) : s.KeepsFunctions where
  held := hs
  lookup? := hs.lookup? fun _ _ => rfl
  alone := hs.lookupWhile?_eq fun _ _ => rfl
  declared := Run.declare_lasts
  assigned hscope := Run.assign_lasts hscope.mem
  calls hs hcallee hargs :=
    .of_keeps (Run.keeps_callFromOutside hcallee hargs) hs subset_rfl (callFromOutside_recorded hs hcallee hargs)
  modules p hs hstands := .of_keeps (Run.keeps_runModule p hstands) hs subset_rfl (runModule_recorded hs p hstands)

end Script

/-! ### Histories -/

namespace Loader
namespace State

variable {s : State}

/-- What a step passes to a function is held then, as what earlier steps have returned is. -/
def Passes (s : State) : Step → Prop
  | .call callee args =>
    callee.Held (s.session.scripts.live nothing) ∧ ∀ v ∈ args, v.Held (s.session.scripts.live nothing)
  | _ => True

/-- What the steps of a history pass to functions is held. -/
def PassesAll : State → List Step → Prop
  | _, [] => True
  | s, step :: history => s.Passes step ∧ (s.next step).PassesAll history

/-- What is said of the functions in an import. -/
structure LoadSurvives (s : State) (specifier : String) : Prop where
  /-- Nothing is bound but held values. -/
  goes : ∃ binds, s.session.scripts.Goes nothing binds (s.load specifier).2.scripts
  /-- Exports are held. -/
  held : ∀ url exports, (s.load specifier).1 = .ok (url, exports) →
    ∀ e ∈ exports.entries, e.2.Held ((s.load specifier).2.scripts.live nothing)
  /-- What is thrown is held. -/
  thrown : ∀ v, (s.load specifier).1 = .error (.eval (.thrown v)) →
    v.Held ((s.load specifier).2.scripts.live nothing)
  /-- No function has lost its scope. -/
  not_lost : ∀ name, (s.load specifier).1 ≠ .error (.eval (.misuse (.lostScope name)))

theorem loadSurvives (hs : s.session.scripts.WellHeld)
    (hbuiltins : s.loader.builtins.Keeps nothing (s.session.scripts.live nothing)) (specifier : String) :
    s.LoadSurvives specifier := by
  obtain ⟨hgoes, hheld, -⟩ := keeps_load hbuiltins specifier s.session hs subset_rfl
  have hheld : (Grip.loadError.except (.pair (.any Url) .exports)).Held ((s.load specifier).2.scripts.live nothing)
      (s.load specifier).1 := hheld
  refine ⟨hgoes, fun url exports hloaded => ?_, fun v hv => ?_, fun name hlost => ?_⟩
  · rw [hloaded] at hheld
    exact hheld.2
  · rwa [hv] at hheld
  · rwa [hlost] at hheld

/-- A step binds held values only. -/
theorem goes_next (hs : s.session.scripts.WellHeld)
    (hbuiltins : s.loader.builtins.Keeps nothing (s.session.scripts.live nothing)) {step : Step}
    (hstep : s.Passes step) : ∃ binds, s.session.scripts.Goes nothing binds (s.next step).session.scripts := by
  cases step with
  | load specifier => exact (loadSurvives hs hbuiltins specifier).goes
  | call callee args =>
    exact (Load.keeps_script (Run.keeps_callFromOutside hstep.1 hstep.2) s.session hs subset_rfl).goes
  | _ => exact ⟨[], .done⟩

/-- A history binds held values only. -/
theorem goes_after (hs : s.session.scripts.WellHeld)
    (hbuiltins : s.loader.builtins.Keeps nothing (s.session.scripts.live nothing)) {history : List Step}
    (hhistory : s.PassesAll history) :
    ∃ binds, s.session.scripts.Goes nothing binds (s.after history).session.scripts := by
  induction history generalizing s with
  | nil => exact ⟨[], .done⟩
  | cons step history ih =>
    obtain ⟨binds, hgoes⟩ := goes_next hs hbuiltins hhistory.1
    have hbuiltins' : (s.next step).loader.builtins.Keeps nothing ((s.next step).session.scripts.live nothing) := by
      rw [builtins_next]
      exact hbuiltins.mono (Store.live_mono hgoes.extent_le)
    obtain ⟨binds', hgoes'⟩ := ih (hgoes.sound hs) hbuiltins' hhistory.2
    exact ⟨binds ++ binds', hgoes.append hgoes'⟩

end State

/-- **Functions survive being stored.**  A history binds held values only.  At every moment on such a way functions are
held weakly in the scopes that they captured and nowhere else; names give back the very functions that they have been
bound to, with strong holds on their scopes; and neither calls nor the code of modules ever find that a scope is gone,
whatever has been freed that they do not need.  The same goes for the exports and the errors of the next import. -/
theorem functions_survive {s : State} (hs : s.session.scripts.WellHeld)
    (hbuiltins : s.loader.builtins.Keeps nothing (s.session.scripts.live nothing)) {history : List Step}
    (hhistory : s.PassesAll history) :
    (∃ binds, s.session.scripts.Goes nothing binds (s.after history).session.scripts) ∧
      (∀ binds m, s.session.scripts.Goes nothing binds m → m.KeepsFunctions) ∧
      ∀ specifier, (s.after history).LoadSurvives specifier := by
  obtain ⟨binds, hgoes⟩ := State.goes_after hs hbuiltins hhistory
  refine ⟨⟨binds, hgoes⟩, fun _ _ h => (h.sound hs).keepsFunctions, State.loadSurvives (hgoes.sound hs) ?_⟩
  rw [State.builtins_after]
  exact hbuiltins.mono (Store.live_mono hgoes.extent_le)

/-- A function that calls itself by its name, and returns itself in the end, is all that is kept of a module.  The
frames of calls that have ended are freed.  Called once more it still finds its name; and without it, its scope can be
freed, too. -/
theorem functions_survive_recursion :
    let source := "export function count(n) \x7b return n ? count(n - 1) : count; \x7d count(2);"
    let files : Files := ⟨[("/w", .directory), ("/w/a", .file source.toUTF8)], []⟩
    let s : State := ⟨⟨.default, ⟨"/cache"⟩, fun _ => .error "offline", .default⟩,
      ⟨⟨files, [], [], [], 0⟩, .empty ⟨none, "/tmp", some "/w", [], 1, "linux", "x64"⟩⟩⟩
    let count : Value := match (s.load "./a").1 with
      | .ok (_, exports) => (Dict.get? exports.entries "count").getD .undefined
      | .error _ => .undefined
    let history : List Step := [.load "./a", .call count [.number 1.0]]
    let scripts := (s.after history).session.scripts
    let calls : List Thing := [.frame 1, .frame 2, .frame 3, .frame 4, .frame 5]
    let freed := scripts.free fun t => decide (t ∈ calls)
    scripts.Frees calls ∧ scripts.Frees (.frame 0 :: calls) ∧
      ((Run.callFromOutside count [.number 1.0]).run freed).1.toOption.any count.strictEq = true ∧
      (∃ binds, s.session.scripts.Goes nothing binds scripts) ∧
      (∀ binds m, s.session.scripts.Goes nothing binds m → m.KeepsFunctions) ∧
      ∀ specifier, (s.after history).LoadSurvives specifier := by
  intro source files s count history scripts calls freed
  have hpasses : s.PassesAll history := ⟨trivial, ⟨by decide +kernel, by decide +kernel⟩, trivial⟩
  exact ⟨by decide +kernel, by decide +kernel, by decide +kernel,
    functions_survive (Store.wellHeld_empty _) Registry.keeps_default hpasses⟩

end Loader
end ScriptImport
