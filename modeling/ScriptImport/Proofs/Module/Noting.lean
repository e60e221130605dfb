/-
# Evaluating and noting what starts

To see which bodies start, a tree is evaluated with `Noting` in place of the session.  What runs a body notes the
position in the tree that evaluating has come to; everything else does in the session what it does.  `Notes` says so
of a step: from a session it does what another step does there, and notes some positions.

A module that is run notes one body, its own, unless its imports cannot be bound (`notes_runBody`,
`finishIn_noting`).  A whole evaluation is the same evaluation as in the session (`evaluateNoting_erase`).
-/

import ScriptImport.Proofs.Module.Evaluate
import ScriptImport.Proofs.Module.Tree

namespace ScriptImport
namespace Module

open Script Syntax

/-! ### Noting what starts -/

/-- What evaluating changes, and the positions at which a body has started, in the order of time. -/
structure Noted where
  session : Session
  started : List Position

/-- What evaluating the module at a position does, while it is noted what starts. -/
abbrev Noting := ReaderT Position (StateM Noted)

namespace Noting

/-- Does something with the session. -/
def act {α : Type} (step : StateM Session α) : Noting α := do
  let n ← get
  let (a, s) := step.run n.session
  set { n with session := s }
  return a

/-- Runs a body, and notes that it starts. -/
def body {α : Type} (run : Load α) : ExceptT LoadError Noting α := ExceptT.mk do
  let here ← read
  modify fun n => { n with started := n.started ++ [here] }
  act run.run

end Noting

/-- Modules are evaluated as in the session.  A body is noted when it is run, at the position that the way down to the
module has led to. -/
instance : Evaluating Noting where
  act := Noting.act
  runScript context p scope := Noting.body (Load.script (Run.runModule context p scope))
  runBuiltin b names := Noting.body (valuesOf b names)
  below i evaluation := fun here => evaluation (here ++ [i])

/-- Evaluates the module at a position, and notes what starts. -/
def evaluateNoting (here : Position) (m : Module) : StateM Noted (Module × Except LoadError Namespace) :=
  m.evaluateIn Noting here

/-- Evaluates the modules below the one at a position, the first of which is number `i`, and notes what starts. -/
def evaluateAllNoting (here : Position) (i : Nat) (ms : List (String × Module)) :
    StateM Noted (List (String × Module) × Except LoadError Unit) :=
  evaluateAllIn Noting i ms here

variable {m : Module} {s s' : Session} {here : Position}

/-! ### What is noted -/

/-- Whether the body of a module starts in a session: that of a program does if its imports can be bound. -/
def starts (m : Module) (s : Session) : Bool :=
  match m.kind with
  | .source p => ((m.importScope p).run s).1.isOk
  | .synthetic .. => true

/-- From the session `s`, `x` does what `y` does, and notes the bodies at `started`. -/
def Notes {α : Type} (here : Position) (s : Session) (x : ExceptT LoadError Noting α) (y : Load α)
    (started : List Position) : Prop :=
  ∀ before, x.run here ⟨s, before⟩ = ((y.run s).1, ⟨(y.run s).2, before ++ started⟩)

section

variable {α β : Type} {x : ExceptT LoadError Noting α} {y : Load α} {f : α → ExceptT LoadError Noting β}
  {g : α → Load β} {first : List Position}

theorem notes_pure (a : α) : Notes here s (pure a) (pure a) [] := fun before => by
  rw [List.append_nil]
  rfl

theorem notes_loadIn (step : Load α) : Notes here s (loadIn Noting step) step [] := fun before => by
  rw [List.append_nil]
  rfl

theorem notes_body (run : Load α) : Notes here s (Noting.body run) run [here] := fun _ => rfl

theorem run_bind_noting (x : ExceptT LoadError Noting α) (f : α → ExceptT LoadError Noting β) (here : Position)
    (n : Noted) : (x >>= f).run here n =
      match x.run here n with
      | (.ok a, n) => (f a).run here n
      | (.error e, n) => (.error e, n) := by
  rw [ExceptT.run_bind]
  simp only [bind, ReaderT.bind, StateT.bind]
  cases x.run here n with
  | mk result n => cases result <;> rfl

theorem Notes.bind_of_error {e : LoadError} (hx : Notes here s x y first) (hy : y.run s = (.error e, s')) :
    Notes here s (x >>= f) (y >>= g) first := by
  intro before
  rw [run_bind_noting, hx, hy, Load.run_bind_of_error hy]

theorem Notes.bind_of_ok {a : α} {others : List Position} (hx : Notes here s x y first)
    (hy : y.run s = (.ok a, s')) (hf : Notes here s' (f a) (g a) others) :
    Notes here s (x >>= f) (y >>= g) (first ++ others) := by
  intro before
  rw [run_bind_noting, hx, hy, Load.run_bind_of_ok hy]
  dsimp only
  rw [hf, List.append_assoc]

/-- What follows a body is no body. -/
theorem Notes.bind (hx : Notes here s x y first) (hf : ∀ a s', Notes here s' (f a) (g a) []) :
    Notes here s (x >>= f) (y >>= g) first := by
  cases hy : y.run s with
  | mk result s' =>
    cases result with
    | error e => exact hx.bind_of_error hy
    | ok a => simpa using hx.bind_of_ok hy (hf a s')

end

theorem notes_runToEnd (m : Module) (p : Program) (here : Position) (s : Session) :
    Notes here s (m.runToEndIn Noting p) (m.runToEnd p) (if ((m.importScope p).run s).1.isOk then [here] else []) := by
  have himport : Notes here s (loadIn Noting (m.importScope p)) (m.importScope p) [] := notes_loadIn _
  rw [runToEnd_eq, runToEndIn]
  -- The body starts behind the imports, so it depends on them whether anything is noted.
  cases hscope : (m.importScope p).run s with
  | mk result s' =>
    cases result with
    | error e => exact himport.bind_of_error hscope
    | ok scope => exact himport.bind_of_ok hscope ((notes_body _).bind fun _ _ => notes_pure scope)

/-- **A body is noted once if it starts,** and otherwise not. -/
theorem notes_runBody (m : Module) (here : Position) (s : Session) :
    Notes here s (m.runBodyIn Noting) m.runBody (if m.starts s then [here] else []) := by
  rw [runBody_eq, runBodyIn, starts]
  cases m.kind with
  | source p => exact (notes_runToEnd m p here s).bind fun _ _ => (notes_loadIn _).bind fun _ _ => notes_loadIn _
  | synthetic b names => exact notes_body _

theorem notes_runExports (m : Module) (here : Position) (s : Session) :
    Notes here s (m.runExportsIn Noting) m.runExports (if m.starts s then [here] else []) :=
  (notes_runBody m here s).bind fun _ _ => (notes_loadIn _).bind fun _ _ => notes_pure _

theorem finishIn_noting (here : Position) (m : Module) (n : Noted) : m.finishIn Noting here n =
    ((m.finish n.session).1, ⟨(m.finish n.session).2, n.started ++ if m.starts n.session then [here] else []⟩) := by
  have hnotes : (m.runExportsIn Noting).run here n = _ := notes_runExports m here n.session n.started
  simp only [finishIn, bind, ReaderT.bind, StateT.bind]
  rw [hnotes]
  cases hrun : m.runExports.run n.session with
  | mk result s =>
    cases result with
    | error e =>
      rw [finish_of_error hrun]
      rfl
    | ok exports =>
      rw [finish_of_ok hrun]
      rfl

theorem evaluateNoting_of_ne_linked (h : m.state ≠ .linked) (here : Position) (n : Noted) :
    evaluateNoting here m n = ((m, .error (.state ⟨m.url, m.state, .evaluating⟩)), n) := by
  obtain ⟨url, context, kind, state, exports, dependencies⟩ := m
  have hstate : state ≠ .linked := h
  simp only [evaluateNoting, evaluateIn, if_pos hstate]
  rfl

theorem evaluateNoting_linked (here : Position) (url : Url) (context : ObjectId) (kind : ModuleKind)
    (exports : Option Namespace) (ds : List (String × Module)) (n : Noted) :
    evaluateNoting here (.node url context kind .linked exports ds) n = match evaluateAllNoting here 0 ds n with
      | ((ds, .error e), n) => ((.node url context kind .failed exports ds, .error e), n)
      | ((ds, .ok ()), n) => finishIn Noting (.node url context kind .evaluating exports ds) here n := by
  simp only [evaluateNoting, evaluateAllNoting, evaluateIn, ne_eq, not_true_eq_false, if_false, bind, ReaderT.bind,
    StateT.bind]
  cases evaluateAllIn Noting 0 ds here n with
  | mk r n' => obtain ⟨ds', _ | _⟩ := r <;> rfl

theorem evaluateAllNoting_cons (here : Position) (i : Nat) (specifier : String) (m : Module)
    (ds : List (String × Module)) (n : Noted) :
    evaluateAllNoting here i ((specifier, m) :: ds) n = match evaluateNoting (here ++ [i]) m n with
      | ((m, .error e), n) => (((specifier, m) :: ds, .error e), n)
      | ((m, .ok _), n) => (((specifier, m) :: (evaluateAllNoting here (i + 1) ds n).1.1,
          (evaluateAllNoting here (i + 1) ds n).1.2), (evaluateAllNoting here (i + 1) ds n).2) := by
  simp only [evaluateNoting, evaluateAllNoting, evaluateAllIn, Evaluating.below, bind, ReaderT.bind, StateT.bind]
  cases evaluateIn Noting m (here ++ [i]) n with
  | mk r n' => obtain ⟨m', _ | _⟩ := r <;> rfl

mutual

/-- **Noting changes nothing else:** what is noted left out, it is the same evaluation. -/
theorem evaluateNoting_erase (here : Position) : ∀ (m : Module) (n : Noted),
    ((evaluateNoting here m n).1, (evaluateNoting here m n).2.session) = m.evaluate n.session
  | node url context kind state exports ds, n => by
    by_cases hstate : state = .linked
    · subst hstate
      rw [evaluateNoting_linked, evaluate_linked, ← evaluateAllNoting_erase here 0 ds n]
      obtain ⟨⟨ds', _ | _⟩, n'⟩ := evaluateAllNoting here 0 ds n
      · rfl
      · dsimp only
        rw [finishIn_noting]
        rfl
    · let m := node url context kind state exports ds
      rw [evaluateNoting_of_ne_linked (m := m) hstate, evaluate_of_ne_linked (m := m) hstate]

theorem evaluateAllNoting_erase (here : Position) (i : Nat) : ∀ (ds : List (String × Module)) (n : Noted),
    ((evaluateAllNoting here i ds n).1, (evaluateAllNoting here i ds n).2.session) = evaluateAll ds n.session
  | [], n => rfl
  | (specifier, m) :: ds, n => by
    rw [evaluateAllNoting_cons, evaluateAll_cons, ← evaluateNoting_erase (here ++ [i]) m n]
    obtain ⟨⟨m', _ | _⟩, n'⟩ := evaluateNoting (here ++ [i]) m n
    · rfl
    · dsimp only
      rw [← evaluateAllNoting_erase here (i + 1) ds n']

end

end Module
end ScriptImport
