/-
# Modules are in the right state when they are needed

Linking asks for the state of modules that have just been built, which are unlinked (`raises_linkBelow`), so it
never finds a module in the wrong state.  Running a module asks for the exports of the modules below it, for every
specifier that its imports and exports name.  These are the specifiers that linking went through
(`Program.mem_requests`), and the modules for them have been evaluated before (`ready_of_evaluateAll`), so the
evaluation of a linked tree fails for reasons of running only (`LinkedTree.ofRunning`): a script has failed, or an
export is missing.
-/

import ScriptImport.Proofs.Module.Evaluate
import ScriptImport.Proofs.Module.Tree

namespace ScriptImport

open Script Syntax

namespace LoadError

/-- An error that is not about the state of a module. -/
def IsStateless (e : LoadError) : Prop := ∀ e', e ≠ .state e'

/-- An error of running: a script has failed, or an export is missing. -/
inductive OfRunning : LoadError → Prop where
  | eval (error : EvalError) : OfRunning (.eval error)
  | missingExport (specifier name : String) : OfRunning (.missingExport specifier name)

theorem OfRunning.isStateless {e : LoadError} (h : e.OfRunning) : e.IsStateless := by
  rintro e' rfl
  cases h

end LoadError

open Load LoadError

/-! ### Linking -/

theorem Builder.raises_build (b : Builder) (url : Url) (context : ObjectId) :
    Raises IsStateless (b.build url context) := by
  unfold build
  split
  · refine (raises_onWeb _).bind fun _ result _ _ => ?_
    cases result with
    | error e => exact raises_throw (by simp [IsStateless])
    | ok fetched =>
      dsimp only
      split
      · exact raises_throw (by simp [IsStateless])
      · exact (raises_log _).bind fun _ _ _ _ => raises_pure _
  · split
    · unfold buildBuiltin
      split
      · exact raises_throw (by simp [IsStateless])
      · exact raises_get.bind fun _ _ _ _ => (raises_log _).bind fun _ _ _ _ => raises_pure _
    · exact raises_throw (by simp [IsStateless])

/-- **A module that is linked as it was built is never refused,** nor is any of those below it. -/
theorem Linker.raises_linkBelow (l : Linker) (depth : Nat) (above : List Url) {m : Module}
    (hm : m.state = .unlinked) : Raises IsStateless (l.linkBelow depth above m) := by
  induction depth generalizing above m with
  | zero => exact raises_throw (by simp [IsStateless])
  | succ depth ih =>
    have hlinking : m.transition .linking = .ok (m.withState .linking) := by
      rw [Module.transition, hm]
      rfl
    unfold linkBelow
    rw [hlinking]
    refine (raises_pure _).bind fun s m' s' hm' => ?_
    obtain rfl : m.withState .linking = m' := by
      cases hm'
      rfl
    refine (raises_mapM fun specifier _ => ?_).bind fun _ ds _ _ => ?_
    · refine Raises.bind ?_ fun _ _ _ _ => raises_pure _
      unfold dependency
      split
      · exact raises_throw (by simp [IsStateless])
      · split
        · exact raises_throw (by simp [IsStateless])
        · refine (raises_log _).bind fun _ _ _ _ => ?_
          refine (l.builder.raises_build _ _).bind fun _ built _ hbuilt => ?_
          obtain ⟨kind, rfl⟩ := Builder.eq_new_of_build hbuilt
          exact ih _ rfl
    · cases m
      exact raises_pure _

/-! ### Running -/

namespace Syntax

theorem mem_distinctAfter {x : String} {seen xs : List String} :
    x ∈ distinctAfter seen xs ↔ x ∈ xs ∧ x ∉ seen := by
  induction xs generalizing seen with
  | nil => simp [distinctAfter]
  | cons y ys ih =>
    rw [distinctAfter]
    split <;> by_cases hxy : x = y <;> simp_all

/-- A program requests what one of its items asks for, and nothing else. -/
theorem Program.mem_requests {p : Program} {source : String} :
    source ∈ p.requests ↔ ∃ i ∈ p.body, i.request? = some source := by
  rw [requests, distinct, mem_distinctAfter, List.mem_filterMap]
  simp

end Syntax

namespace Module

variable {m : Module}

/-- The modules that a module requests are below it, and have exports. -/
def Ready (m : Module) : Prop :=
  ∀ specifier ∈ m.requests, ∃ d exports, m.dependency? specifier = some d ∧ d.exports = some exports

theorem run_importedFrom_of_exports {specifier : String} {d : Module} {exports : Namespace}
    (hd : m.dependency? specifier = some d) (hexports : d.exports = some exports) (s : Session) :
    (m.importedFrom specifier).run s = (.ok exports, s) := by
  unfold importedFrom
  rw [hd]
  dsimp only
  rw [hexports]
  rfl

theorem Ready.raises_importedFrom (h : m.Ready) {specifier : String} (hrequest : specifier ∈ m.requests) :
    Raises OfRunning (m.importedFrom specifier) := by
  obtain ⟨d, exports, hd, hexports⟩ := h specifier hrequest
  intro s e s' herror
  rw [run_importedFrom_of_exports hd hexports] at herror
  cases herror

theorem raises_exported (exports : Namespace) (specifier name : String) :
    Raises OfRunning (exported exports specifier name) := by
  unfold exported
  split
  · exact raises_pure _
  · exact raises_throw (.missingExport _ _)

theorem raises_localValue (scope : Scope) (name : String) : Raises OfRunning (localValue scope name) := by
  refine raises_get.bind fun _ _ _ _ => ?_
  split
  · exact raises_pure _
  · exact raises_throw (.eval _)

theorem raises_run {α : Type} (act : Run α) : Raises OfRunning (Load.script act) := raises_script .eval act

theorem Ready.raises_bindImport (h : m.Ready) (scope : Scope) {i : Import} (hi : i.source ∈ m.requests) :
    Raises OfRunning (m.bindImport scope i) := by
  obtain ⟨source, defaultName, names⟩ := i
  have hnamed : ∀ (exports : Namespace) (ns : List ImportName), Raises OfRunning (ns.forM fun n => do
      let v ← exported exports source n.imported
      Load.script (Run.declare scope n.localName v false)) := fun _ _ =>
    raises_forM fun _ _ => (raises_exported _ _ _).bind fun _ _ _ _ => raises_run _
  refine (h.raises_importedFrom hi).bind fun _ exports _ _ => ?_
  cases defaultName with
  | none =>
    cases names with
    | everything name => exact raises_run _
    | some ns => exact hnamed exports ns
  | some name =>
    refine (raises_exported _ _ _).bind fun _ _ _ _ => (raises_run _).bind fun _ _ _ _ => ?_
    cases names with
    | everything name => exact raises_run _
    | some ns => exact hnamed exports ns

theorem Ready.raises_collect (h : m.Ready) (scope : Scope) (entries : Dict Value) {i : Item}
    (hi : ∀ source, i.request? = some source → source ∈ m.requests) :
    Raises OfRunning (m.collect scope entries i) := by
  unfold collect
  split
  · exact (raises_localValue _ _).bind fun _ _ _ _ => raises_pure _
  · exact (raises_localValue _ _).bind fun _ _ _ _ => raises_pure _
  · exact (raises_localValue _ _).bind fun _ _ _ _ => raises_pure _
  · exact raises_foldlM (fun _ _ _ => (raises_localValue _ _).bind fun _ _ _ _ => raises_pure _) _
  · refine (h.raises_importedFrom (hi _ rfl)).bind fun _ exports _ _ => ?_
    exact raises_foldlM (fun _ _ _ => (raises_exported _ _ _).bind fun _ _ _ _ => raises_pure _) _
  · exact raises_pure _

theorem Ready.raises_passOn (h : m.Ready) (entries : Dict Value) {i : Item}
    (hi : ∀ source, i.request? = some source → source ∈ m.requests) : Raises OfRunning (m.passOn entries i) := by
  unfold passOn
  split
  · exact (h.raises_importedFrom (hi _ rfl)).bind fun _ _ _ _ => raises_pure _
  · exact raises_pure _

/-- **A module that is ready runs without asking for a state that is not there.** -/
theorem Ready.raises_runBody (h : m.Ready) : Raises OfRunning m.runBody := by
  rw [runBody_eq]
  cases hkind : m.kind with
  | synthetic b names =>
    exact raises_foldlM (fun _ _ _ => (raises_run _).bind fun _ _ _ _ => raises_pure _) _
  | source p =>
    have hrequests : ∀ i ∈ p.body, ∀ source, i.request? = some source → source ∈ m.requests := by
      intro i hi source hsource
      rw [requests, hkind]
      exact Program.mem_requests.2 ⟨i, hi, hsource⟩
    have himports : ∀ scope, Raises OfRunning (m.bindImports scope p) := by
      intro scope
      refine raises_forM fun i hi => ?_
      cases i with
      | importing i => exact h.raises_bindImport scope (hrequests _ hi _ rfl)
      | _ => exact raises_pure _
    have hend : Raises OfRunning (m.runToEnd p) := by
      rw [runToEnd_eq]
      refine Raises.bind ?_ fun _ _ _ _ => (raises_run _).bind fun _ _ _ _ => raises_pure _
      exact (raises_run _).bind fun _ scope _ _ =>
        (himports scope).bind fun _ _ _ _ => raises_pure _
    refine hend.bind fun _ scope _ _ => ?_
    refine (raises_foldlM (fun entries i hi => ?_) _).bind fun _ entries _ _ => ?_
    · exact h.raises_collect scope entries (hrequests i hi)
    · exact raises_foldlM (fun entries i hi => h.raises_passOn entries (hrequests i hi)) entries

theorem Ready.finish_ofRunning (h : m.Ready) {s : Session} {e : LoadError}
    (herror : (m.finish s).1.2 = .error e) : e.OfRunning := by
  have hexports : Raises OfRunning m.runExports := by
    rw [runExports_eq]
    exact h.raises_runBody.bind fun _ _ _ _ => (raises_run _).bind fun _ _ _ _ => raises_pure _
  cases hrun : m.runExports.run s with
  | mk result s' =>
    cases result with
    | ok exports =>
      rw [finish_of_ok hrun] at herror
      cases herror
    | error e' =>
      rw [finish_of_error hrun] at herror
      cases herror
      exact hexports s e s' hrun

/-- Modules that have been evaluated keep their specifiers and have exports. -/
theorem exports_of_evaluateAll {ds ds' : List (String × Module)} {s s' : Session}
    (h : evaluateAll ds s = ((ds', .ok ()), s')) :
    ds'.map (·.1) = ds.map (·.1) ∧ ∀ d ∈ ds', ∃ exports, d.2.exports = some exports := by
  induction ds generalizing ds' s s' with
  | nil =>
    cases h
    exact ⟨rfl, nofun⟩
  | cons d ds ih =>
    obtain ⟨specifier, m⟩ := d
    rw [evaluateAll_cons] at h
    cases hfirst : evaluate m s with
    | mk ended s₁ =>
      obtain ⟨m', e | exports⟩ := ended
      · rw [hfirst] at h
        cases h
      · rw [hfirst] at h
        dsimp only at h
        cases hrest : evaluateAll ds s₁ with
        | mk others s₂ =>
          obtain ⟨ds₁, result⟩ := others
          rw [hrest] at h
          cases h
          obtain ⟨hspecifiers, hexports⟩ := ih hrest
          refine ⟨congrArg (specifier :: ·) hspecifiers, fun d hd => ?_⟩
          rcases List.mem_cons.1 hd with rfl | hd
          · obtain ⟨-, -, -, -, hm'⟩ := evaluate_eq_ok hfirst
            exact ⟨exports, hm'⟩
          · exact hexports d hd

/-- Among modules with specifiers there is one for each of the specifiers. -/
theorem exists_lookup_of_mem {ds : List (String × Module)} {specifier : String}
    (h : specifier ∈ ds.map (·.1)) : ∃ d, ds.lookup specifier = some d ∧ (specifier, d) ∈ ds := by
  obtain ⟨⟨name, below⟩, hd, rfl⟩ := List.mem_map.1 h
  have hfound : (ds.lookup name).isSome := List.lookup_isSome_iff.2 ⟨(name, below), hd, by simp⟩
  obtain ⟨d, hlookup⟩ := Option.isSome_iff_exists.1 hfound
  obtain ⟨before, after, rfl, -⟩ := List.lookup_eq_some_iff.1 hlookup
  exact ⟨d, hlookup, by simp⟩

/-- **When the modules below have been evaluated, a module is ready,** if they are those that it requests. -/
theorem ready_of_evaluateAll {ds : List (String × Module)} {s s₁ : Session}
    (hrequests : m.requests = ds.map (·.1)) (h : evaluateAll ds s = ((m.dependencies, .ok ()), s₁)) :
    m.Ready := by
  obtain ⟨hsame, hexports⟩ := exports_of_evaluateAll h
  intro specifier hrequest
  have hspecifier : specifier ∈ m.dependencies.map (·.1) := by
    rw [hsame, ← hrequests]
    exact hrequest
  obtain ⟨d, hlookup, hd⟩ := exists_lookup_of_mem hspecifier
  obtain ⟨exports, hd⟩ := hexports (specifier, d) hd
  exact ⟨d, exports, hlookup, hd⟩

theorem evaluateAll_ofRunning {ds : List (String × Module)}
    (hds : ∀ d ∈ ds, ∀ s e, (d.2.evaluate s).1.2 = .error e → e.OfRunning) {s : Session} {e : LoadError}
    (herror : (evaluateAll ds s).1.2 = .error e) : e.OfRunning := by
  induction ds generalizing s with
  | nil => cases herror
  | cons d ds ih =>
    obtain ⟨specifier, m⟩ := d
    rw [evaluateAll_cons] at herror
    have hm := hds (specifier, m) (List.mem_cons_self ..) s
    generalize evaluate m s = ended at hm herror
    obtain ⟨⟨m', e' | exports⟩, s₁⟩ := ended
    · cases herror
      exact hm e rfl
    · exact ih (fun d hd => hds d (List.mem_cons_of_mem _ hd)) herror

/-- A linked module fails for reasons of running, if those below it do and are those that it requests. -/
theorem evaluate_ofRunning {url : Url} {context : ObjectId} {kind : ModuleKind} {exports : Option Namespace}
    {ds : List (String × Module)}
    (hspecifiers : ds.map (·.1) = (Module.node url context kind .linked exports ds).requests)
    (hds : ∀ d ∈ ds, ∀ s e, (d.2.evaluate s).1.2 = .error e → e.OfRunning) {s : Session} {e : LoadError}
    (herror : (evaluate (.node url context kind .linked exports ds) s).1.2 = .error e) : e.OfRunning := by
  rw [evaluate_linked] at herror
  cases hall : evaluateAll ds s with
  | mk ended s₁ =>
    obtain ⟨ds', e' | ⟨⟩⟩ := ended
    · rw [hall] at herror
      cases herror
      exact evaluateAll_ofRunning hds (congrArg (·.1.2) hall)
    · rw [hall] at herror
      have hready : Ready (.node url context kind .evaluating exports ds') :=
        ready_of_evaluateAll hspecifiers.symm hall
      exact hready.finish_ofRunning herror

/-- **In a linked tree no module finds another one in the wrong state** when it is evaluated: the evaluation fails
for reasons of running only. -/
theorem LinkedTree.ofRunning (h : LinkedTree m) {s : Session} {e : LoadError}
    (herror : (m.evaluate s).1.2 = .error e) : e.OfRunning := by
  induction h generalizing s e with
  | node hspecifiers _ ih => exact evaluate_ofRunning hspecifiers (fun d hd s e => ih d hd) herror

end Module
end ScriptImport
