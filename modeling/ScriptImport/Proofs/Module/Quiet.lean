/-
# Steps that leave the web alone

Scripts do not reach the web, so all that evaluating does to it is to log events: no text is fetched, no file changes
and no request is sent.  `Load.Quiet` says this of a step of loading; it is closed under putting steps together, and
from the steps of running a body it comes to the evaluation of whole trees (`Module.quiet_evaluate`).
-/

import ScriptImport.Proofs.Fetch.Asked
import ScriptImport.Proofs.Module.Evaluate

namespace ScriptImport

namespace Load

variable {α β : Type}

/-- A step that leaves the web as it is, but for events. -/
def Quiet (x : Load α) : Prop := ∀ s, (x.run s).2.web.unlogged = s.web.unlogged

theorem quiet_pure (a : α) : Quiet (pure a) := fun _ => rfl

theorem quiet_throw (e : LoadError) : Quiet (throw e : Load α) := fun _ => rfl

theorem quiet_get : Quiet get := fun _ => rfl

theorem quiet_log (e : Event) : Quiet (log e) := fun _ => rfl

theorem quiet_script (act : Script.Run α) : Quiet (script act) := by
  intro s
  unfold script
  rw [run_bind_of_ok (run_get s)]
  generalize act.run.run s.scripts = ran
  obtain ⟨_ | _, scripts⟩ := ran <;> rfl

theorem Quiet.bind {x : Load α} {f : α → Load β} (hx : Quiet x) (hf : ∀ a, Quiet (f a)) : Quiet (x >>= f) := by
  intro s
  have hweb := hx s
  cases hrun : x.run s with
  | mk result s' =>
    rw [hrun] at hweb
    cases result with
    | ok a => rw [run_bind_of_ok hrun, hf a s', hweb]
    | error e => rw [run_bind_of_error hrun, hweb]

theorem quiet_forM {as : List α} {f : α → Load PUnit} (hf : ∀ a, Quiet (f a)) : Quiet (as.forM f) := by
  induction as with
  | nil => exact quiet_pure _
  | cons a as ih => exact (hf a).bind fun _ => ih

theorem quiet_foldlM {as : List α} {f : β → α → Load β} (hf : ∀ b a, Quiet (f b a)) (b : β) :
    Quiet (as.foldlM f b) := by
  induction as generalizing b with
  | nil => exact quiet_pure b
  | cons a as ih =>
    rw [List.foldlM_cons]
    exact (hf b a).bind ih

end Load

namespace Module

open Load Script Syntax

variable (m : Module)

theorem quiet_importedFrom (specifier : String) : Quiet (m.importedFrom specifier) := by
  unfold importedFrom
  split
  · exact quiet_throw _
  · split
    · exact quiet_throw _
    · exact quiet_pure _

theorem quiet_exported (exports : Namespace) (specifier name : String) : Quiet (exported exports specifier name) := by
  unfold exported
  split
  · exact quiet_pure _
  · exact quiet_throw _

theorem quiet_localValue (scope : Scope) (name : String) : Quiet (localValue scope name) := by
  refine quiet_get.bind fun _ => ?_
  split
  · exact quiet_pure _
  · exact quiet_throw _

theorem quiet_bindImport (scope : Scope) (i : Import) : Quiet (m.bindImport scope i) := by
  obtain ⟨source, defaultName, names⟩ := i
  refine (m.quiet_importedFrom _).bind fun exports => ?_
  have hsome (names : List ImportName) : Quiet (names.forM fun n => do
      let v ← exported exports source n.imported
      Load.script (Run.declare scope n.localName v false)) :=
    quiet_forM fun _ => (quiet_exported _ _ _).bind fun _ => quiet_script _
  cases defaultName with
  | none =>
    cases names with
    | everything name => exact quiet_script _
    | some names => exact hsome names
  | some name =>
    refine (quiet_exported _ _ _).bind fun _ => (quiet_script _).bind fun _ => ?_
    cases names with
    | everything name => exact quiet_script _
    | some names => exact hsome names

theorem quiet_collect (scope : Scope) (entries : Dict Value) (i : Item) : Quiet (m.collect scope entries i) := by
  unfold collect
  split
  · exact (quiet_localValue _ _).bind fun _ => quiet_pure _
  · exact (quiet_localValue _ _).bind fun _ => quiet_pure _
  · exact (quiet_localValue _ _).bind fun _ => quiet_pure _
  · exact quiet_foldlM (fun _ _ => (quiet_localValue _ _).bind fun _ => quiet_pure _) _
  · exact (m.quiet_importedFrom _).bind fun _ =>
      quiet_foldlM (fun _ _ => (quiet_exported _ _ _).bind fun _ => quiet_pure _) _
  · exact quiet_pure _

theorem quiet_passOn (entries : Dict Value) (i : Item) : Quiet (m.passOn entries i) := by
  unfold passOn
  split
  · exact (m.quiet_importedFrom _).bind fun _ => quiet_pure _
  · exact quiet_pure _

theorem quiet_runToEnd (p : Program) : Quiet (m.runToEnd p) := by
  rw [runToEnd_eq]
  refine Quiet.bind ?_ fun scope => (quiet_script _).bind fun _ => quiet_pure _
  refine (quiet_script _).bind fun scope => Quiet.bind ?_ fun _ => quiet_pure _
  refine quiet_forM fun i => ?_
  split
  · exact m.quiet_bindImport scope _
  · exact quiet_pure _

theorem quiet_runBody : Quiet m.runBody := by
  rw [runBody_eq]
  split
  · exact (m.quiet_runToEnd _).bind fun scope =>
      (quiet_foldlM (m.quiet_collect scope) _).bind (quiet_foldlM m.quiet_passOn)
  · exact quiet_foldlM (fun _ _ => (quiet_script _).bind fun _ => quiet_pure _) _

theorem quiet_runExports : Quiet m.runExports := by
  rw [runExports_eq]
  exact m.quiet_runBody.bind fun _ => (quiet_script _).bind fun _ => quiet_pure _

theorem quiet_finish (s : Session) : (m.finish s).2.web.unlogged = s.web.unlogged := by
  have hweb := m.quiet_runExports s
  cases hrun : m.runExports.run s with
  | mk result s' =>
    rw [hrun] at hweb
    cases result with
    | error e => rw [finish_of_error hrun, hweb]
    | ok exports => rw [finish_of_ok hrun, ← hweb]; rfl

mutual

/-- **Evaluating leaves the web alone.** -/
theorem quiet_evaluate : ∀ (m : Module) (s : Session), (m.evaluate s).2.web.unlogged = s.web.unlogged
  | node url context kind state exports ds, s => by
    by_cases hstate : state = .linked
    · subst hstate
      have hbelow := quiet_evaluateAll ds s
      rw [evaluate_linked]
      generalize evaluateAll ds s = below at hbelow ⊢
      obtain ⟨⟨ds', _ | _⟩, s'⟩ := below
      · exact hbelow
      · exact (quiet_finish _ s').trans hbelow
    · rw [evaluate_of_ne_linked (m := node url context kind state exports ds) hstate]

theorem quiet_evaluateAll : ∀ (ds : List (String × Module)) (s : Session),
    (evaluateAll ds s).2.web.unlogged = s.web.unlogged
  | [], _ => rfl
  | (specifier, m) :: ds, s => by
    have hfirst := quiet_evaluate m s
    rw [evaluateAll_cons]
    generalize m.evaluate s = first at hfirst ⊢
    obtain ⟨⟨m', _ | _⟩, s'⟩ := first
    · exact hfirst
    · exact (quiet_evaluateAll ds s').trans hfirst

end

end Module
end ScriptImport
