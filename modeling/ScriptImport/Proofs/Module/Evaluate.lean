/-
# Steps of evaluating

In the session a step is what its name says (`runToEnd_eq`, `evaluate_node_eq`), and it does not matter which numbers the
modules below one have (`evaluateAllIn_session`).

A module that is not linked is not evaluated (`evaluate_of_ne_linked`).  For a linked one it is all about the
modules below it, which are evaluated one after the other up to the first one that fails (`evaluateAll_cons`),
and about the module itself, if none fails (`evaluate_linked`): then either the module has failed too, or it has
been evaluated (`finish_of_error`, `finish_of_ok`).  What an evaluation that succeeds went through is
`evaluate_eq_ok`.
-/

import Mathlib.Tactic.ByContra
import ScriptImport.Module.Evaluate
import ScriptImport.Proofs.Module.Load

namespace ScriptImport
namespace Module

open Script Syntax

variable {m : Module} {s s' : Session}

/-! ### In the session -/

theorem runToEnd_eq (m : Module) (p : Program) :
    m.runToEnd p = (do
      let scope ← m.importScope p
      Load.script (Run.runModule m.context p scope)
      return scope) := rfl

theorem runProgram_eq (m : Module) (p : Program) :
    m.runProgram p = (do
      let scope ← m.runToEnd p
      let entries ← p.body.foldlM (m.collect scope) []
      p.body.foldlM m.passOn entries) := rfl

theorem runBody_eq (m : Module) : m.runBody =
    match m.kind with
    | .source p => m.runProgram p
    | .synthetic b names => valuesOf b names := by
  rw [runBody, runBodyIn]
  cases m.kind <;> rfl

theorem runExports_eq (m : Module) :
    m.runExports = (do
      let entries ← m.runBody
      return ⟨← Load.script Run.identity, m.url.text, entries⟩) := rfl

theorem finish_eq (m : Module) :
    m.finish = (do
      match ← m.runExports.run with
      | .error e => return (m.fail, .error e)
      | .ok exports =>
        let _ ← (Load.log (.evaluated m.url exports.entries.length)).run
        return ((m.withExports exports).withState .evaluated, .ok exports)) := rfl

/-- In the session it does not matter which number a module below another has. -/
theorem evaluateAllIn_session (i : Nat) (ms : List (String × Module)) :
    evaluateAllIn (StateM Session) i ms = evaluateAll ms := by
  rw [evaluateAll]
  -- Both numbers go up from module to module, so this is about any two of them.
  generalize 0 = j
  induction ms generalizing i j with
  | nil => rw [evaluateAllIn, evaluateAllIn]
  | cons d ms ih =>
    rw [evaluateAllIn, evaluateAllIn, ih (i + 1) (j + 1)]
    rfl

theorem evaluate_node_eq (url : Url) (context : ObjectId) (kind : ModuleKind) (state : ModuleState)
    (exports : Option Namespace) (ds : List (String × Module)) :
    evaluate (.node url context kind state exports ds) = (do
      let m := node url context kind state exports ds
      if state ≠ .linked then return (m, .error (.state ⟨url, state, .evaluating⟩))
      let m := m.withState .evaluating
      match ← evaluateAll ds with
      | (ds, .error e) => return ((m.withDependencies ds).fail, .error e)
      | (ds, .ok ()) => finish (m.withDependencies ds)) := by
  rw [evaluate, evaluateIn]
  rfl

theorem evaluateAll_nil_eq : evaluateAll [] = pure ([], .ok ()) := rfl

theorem evaluateAll_cons_eq (specifier : String) (m : Module) (ds : List (String × Module)) :
    evaluateAll ((specifier, m) :: ds) = (do
      match ← evaluate m with
      | (m, .error e) => return ((specifier, m) :: ds, .error e)
      | (m, .ok _) =>
        let (ds, result) ← evaluateAll ds
        return ((specifier, m) :: ds, result)) := by
  rw [evaluateAll, evaluateAllIn, evaluateAllIn_session]
  rfl

/-! ### How an evaluation goes -/

theorem finish_of_error {e : LoadError} (h : m.runExports.run s = (.error e, s')) :
    m.finish s = ((m.fail, .error e), s') := by
  simp only [finish_eq, bind, StateT.bind]
  rw [h]
  rfl

theorem finish_of_ok {exports : Namespace} (h : m.runExports.run s = (.ok exports, s')) :
    m.finish s = (((m.withExports exports).withState .evaluated, .ok exports),
      { s' with web := (Web.log (.evaluated m.url exports.entries.length) s'.web).2 }) := by
  simp only [finish_eq, bind, StateT.bind]
  rw [h]
  rfl

theorem evaluate_of_ne_linked (h : m.state ≠ .linked) (s : Session) :
    m.evaluate s = ((m, .error (.state ⟨m.url, m.state, .evaluating⟩)), s) := by
  obtain ⟨url, context, kind, state, exports, dependencies⟩ := m
  have hstate : state ≠ .linked := h
  simp only [evaluate_node_eq, if_pos hstate]
  rfl

/-- A linked module is evaluated after the modules below it, and only if none of them fails. -/
theorem evaluate_linked (url : Url) (context : ObjectId) (kind : ModuleKind) (exports : Option Namespace)
    (ds : List (String × Module)) (s : Session) :
    evaluate (.node url context kind .linked exports ds) s = match evaluateAll ds s with
      | ((ds, .error e), s) => ((.node url context kind .failed exports ds, .error e), s)
      | ((ds, .ok ()), s) => finish (.node url context kind .evaluating exports ds) s := by
  simp only [evaluate_node_eq, ne_eq, not_true_eq_false, if_false, bind, StateT.bind]
  cases evaluateAll ds s with
  | mk r s' => obtain ⟨ds', _ | _⟩ := r <;> rfl

theorem evaluateAll_cons (specifier : String) (m : Module) (ds : List (String × Module)) (s : Session) :
    evaluateAll ((specifier, m) :: ds) s = match evaluate m s with
      | ((m, .error e), s) => (((specifier, m) :: ds, .error e), s)
      | ((m, .ok _), s) =>
        (((specifier, m) :: (evaluateAll ds s).1.1, (evaluateAll ds s).1.2), (evaluateAll ds s).2) := by
  simp only [evaluateAll_cons_eq, bind, StateT.bind]
  cases evaluate m s with
  | mk r s' => obtain ⟨m', _ | _⟩ := r <;> rfl

/-- A module that is evaluated was linked, and all modules below it are evaluated before it runs. -/
theorem evaluate_eq_ok {m' : Module} {exports : Namespace}
    (h : m.evaluate s = ((m', .ok exports), s')) :
    ∃ s₁ s₂, evaluateAll m.dependencies s = ((m'.dependencies, .ok ()), s₁) ∧
      ((m.withState .evaluating).withDependencies m'.dependencies).runExports.run s₁ = (.ok exports, s₂) ∧
      m'.exports = some exports := by
  have hstate : m.state = .linked := by
    by_contra hstate
    rw [evaluate_of_ne_linked hstate] at h
    cases h
  obtain ⟨url, context, kind, state, before, ds⟩ := m
  obtain rfl : state = .linked := hstate
  rw [evaluate_linked] at h
  rw [Module.dependencies]
  generalize evaluateAll ds s = below at h ⊢
  obtain ⟨⟨ds', _ | _⟩, s₁⟩ := below
  · cases h
  · dsimp only at h
    generalize hrun : (node url context kind .evaluating before ds').runExports.run s₁ = result at h
    obtain ⟨_ | exports', s₂⟩ := result
    · rw [finish_of_error hrun] at h
      cases h
    · rw [finish_of_ok hrun] at h
      cases h
      exact ⟨s₁, s₂, rfl, hrun, rfl⟩

end Module
end ScriptImport
