/-
# The life of a tree of modules

A tree grows from one module that was built.  Linking and evaluating are asked for at its root, in any order and
as often as one likes, and each time everything else may have changed.  What becomes of the tree:

| root | link | evaluate |
| --- | --- | --- |
| unlinked, nothing below | a linked tree, or failed with nothing below | refused |
| linked, and all below it | refused | evaluated, and all below it, or failed |
| evaluated or failed | refused | refused |

`Settled` describes the trees that there are between two commands (`Settled.perform`), and a tree with an end
state anywhere is refused everything (`after_of_terminal`), so that it never changes again.
-/

import ScriptImport.Proofs.Module.Readiness

namespace ScriptImport
namespace Module

open Script Syntax

/-- What can be asked of the root of a tree. -/
inductive Command where
  | link (linker : Linker)
  | evaluate

/-- The state that a module takes on when it starts to do what it is asked. -/
def Command.start : Command → ModuleState
  | .link _ => .linking
  | .evaluate => .evaluating

/-- Does what is asked of the root of a tree; of the exports it is only told that they are there. -/
def perform (m : Module) : Command → StateM Session (Module × Except LoadError Unit)
  | .link l => l.link m
  | .evaluate => do
    let (m, result) ← m.evaluate
    return (m, result.map fun _ => ())

/-- The tree after commands, each of which is given in a session of its own. -/
def after (m : Module) : List (Command × Session) → Module
  | [] => m
  | (c, s) :: rest => (m.perform c s).1.1.after rest

/-- Nothing is being done to a module, and what it has fits its state. -/
structure AtRest (x : Module) : Prop where
  state : x.state = .unlinked ∨ x.state = .linked ∨ x.state = .evaluated ∨ x.state = .failed
  exports : x.exports.isSome ↔ x.state = .evaluated
  unlinked : x.state = .unlinked → x.dependencies = []
  below : x.state = .linked ∨ x.state = .evaluated → ∀ q y, x.at? q = some y → y.state = x.state

/-- A tree between two commands. -/
inductive Settled : Module → Prop where
  | unlinked (url : Url) (context : ObjectId) (kind : ModuleKind) : Settled (.new url kind context)
  | linked {m : Module} (h : LinkedTree m) : Settled m
  | evaluated {url : Url} {context : ObjectId} {kind : ModuleKind} {exports : Namespace}
      {ds : List (String × Module)} (hds : ∀ d ∈ ds, Settled d.2)
      (hstate : ∀ d ∈ ds, d.2.state = .evaluated) :
      Settled (.node url context kind .evaluated (some exports) ds)
  | failed {url : Url} {context : ObjectId} {kind : ModuleKind} {ds : List (String × Module)}
      (hds : ∀ d ∈ ds, Settled d.2) : Settled (.node url context kind .failed none ds)

variable {m x : Module} {q : Position}

/-! ### What a settled tree looks like -/

theorem Settled.of_dependency (h : Settled m) : ∀ d ∈ m.dependencies, Settled d.2 := by
  cases h with
  | unlinked => exact fun d hd => absurd hd List.not_mem_nil
  | linked h =>
    cases h with
    | node _ hdependencies => exact fun d hd => .linked (hdependencies d hd)
  | evaluated hds _ => exact hds
  | failed hds => exact hds

/-- Every part of a settled tree is settled. -/
theorem Settled.at? (h : Settled m) (hx : m.at? q = some x) : Settled x := by
  induction q generalizing m with
  | nil => exact Option.some.inj hx ▸ h
  | cons i q ih =>
    obtain ⟨d, hd, hbelow⟩ := Option.bind_eq_some_iff.1 hx
    exact ih (h.of_dependency d (List.mem_of_getElem? hd)) hbelow

/-- Below an evaluated module everything is evaluated. -/
theorem Settled.evaluated_below (h : Settled m) (hstate : m.state = .evaluated) (hx : m.at? q = some x) :
    x.state = .evaluated := by
  induction q generalizing m with
  | nil => exact Option.some.inj hx ▸ hstate
  | cons i q ih =>
    obtain ⟨d, hd, hbelow⟩ := Option.bind_eq_some_iff.1 hx
    refine ih (h.of_dependency d (List.mem_of_getElem? hd)) ?_ hbelow
    cases h with
    | evaluated _ hall => exact hall d (List.mem_of_getElem? hd)
    | linked h =>
      rw [h.state] at hstate
      cases hstate
    | _ => cases hstate

/-- The root of a settled tree is at rest. -/
theorem Settled.atRest (h : Settled m) : AtRest m := by
  have hevaluated := fun hstate q y => h.evaluated_below (q := q) (x := y) hstate
  cases h with
  | unlinked url context kind => exact ⟨.inl rfl, by simp [new, exports, state], fun _ => rfl, by simp [new, state]⟩
  | linked h =>
    have hstate := h.state
    refine ⟨.inr (.inl hstate), ?_, ?_, fun _ q y hy => (h.at? hy).state.trans hstate.symm⟩
    · simp [h.exports, hstate]
    · simp [hstate]
  | evaluated =>
    exact ⟨.inr (.inr (.inl rfl)), by simp [exports, state], by simp [state], fun _ => hevaluated rfl⟩
  | failed => exact ⟨.inr (.inr (.inr rfl)), by simp [exports, state], by simp [state], by simp [state]⟩

/-- Only an unlinked module without anything below it is unlinked. -/
theorem Settled.eq_new (h : Settled m) (hstate : m.state = .unlinked) : m = .new m.url m.kind m.context := by
  cases h with
  | unlinked => rfl
  | linked h =>
    rw [h.state] at hstate
    cases hstate
  | _ => cases hstate

theorem Settled.linkedTree (h : Settled m) (hstate : m.state = .linked) : LinkedTree m := by
  cases h with
  | linked h => exact h
  | _ => cases hstate

/-- If a module of the tree has come to an end, so has the root. -/
theorem Settled.root_terminal (h : Settled m) (hx : m.at? q = some x) (hterminal : x.state.isTerminal) :
    m.state.isTerminal := by
  cases h with
  | unlinked url context kind =>
    cases q with
    | nil =>
      cases hx
      exact hterminal
    | cons i q => cases hx
  | linked h =>
    rw [(h.at? hx).state] at hterminal
    cases hterminal
  | evaluated => rfl
  | failed => rfl

/-! ### What a command does -/

theorem link_of_ne_unlinked (l : Linker) (h : m.state ≠ .unlinked) (s : Session) :
    l.link m s = ((m, .error (.state ⟨m.url, m.state, .linking⟩)), s) := by
  have hrefused : m.transition .linking = .error ⟨m.url, m.state, .linking⟩ := by
    rw [transition, if_neg]
    cases hstate : m.state <;> simp_all [ModuleState.canBecome]
  unfold Linker.link
  rw [hrefused]
  rfl

/-- **Linking a module that was built** makes a linked tree, or the module has failed; it is never refused. -/
theorem link_new (l : Linker) (url : Url) (kind : ModuleKind) (context : ObjectId) (s : Session) :
    (∃ t s', l.link (.new url kind context) s = ((t, .ok ()), s') ∧ LinkedTree t) ∨
      ∃ e s', l.link (.new url kind context) s = ((.node url context kind .failed none [], .error e), s') ∧
        ∀ e', e ≠ .state e' := by
  have hstarts : (new url kind context).transition .linking = .ok ((new url kind context).withState .linking) := rfl
  have hfree := l.raises_linkBelow l.depth [] (m := new url kind context) rfl s
  cases hrun : (l.linkBelow l.depth [] (new url kind context)).run s with
  | mk result s' =>
    have hlink : l.link (new url kind context) s = match (result, s') with
        | (.ok t, s') => ((t, .ok ()), s')
        | (.error e, s') => ((.node url context kind .failed none [], .error e), s') := by
      unfold Linker.link
      rw [hstarts]
      simp only [bind, StateT.bind, hrun]
      cases result <;> rfl
    cases result with
    | ok t => exact .inl ⟨t, s', hlink, Linker.linkedTree_of_linkBelow rfl hrun⟩
    | error e => exact .inr ⟨e, s', hlink, hfree e s' hrun⟩

theorem perform_evaluate (m : Module) (s : Session) : m.perform .evaluate s =
    (((m.evaluate s).1.1, (m.evaluate s).1.2.map fun _ => ()), (m.evaluate s).2) := rfl

/-- A module that has come to an end is refused everything. -/
theorem perform_of_terminal (h : m.state.isTerminal) (c : Command) (s : Session) :
    m.perform c s = ((m, .error (.state ⟨m.url, m.state, c.start⟩)), s) := by
  cases c with
  | link l =>
    refine link_of_ne_unlinked l (fun hstate => ?_) s
    rw [hstate] at h
    cases h
  | evaluate =>
    rw [perform_evaluate, evaluate_of_ne_linked]
    · rfl
    · intro hstate
      rw [hstate] at h
      cases h

theorem after_of_terminal (h : m.state.isTerminal) (later : List (Command × Session)) : m.after later = m := by
  induction later with
  | nil => rfl
  | cons c later ih =>
    rw [after, perform_of_terminal h]
    exact ih

/-- Trees next to one another are settled when their evaluation ends, and evaluated if none has failed. -/
theorem settled_evaluateAll {ds : List (String × Module)} (hds : ∀ d ∈ ds, LinkedTree d.2)
    (hends : ∀ d ∈ ds, ∀ s, Settled (d.2.evaluate s).1.1 ∧
      ∀ exports, (d.2.evaluate s).1.2 = .ok exports → (d.2.evaluate s).1.1.state = .evaluated) (s : Session) :
    (∀ d ∈ (evaluateAll ds s).1.1, Settled d.2) ∧
      ((evaluateAll ds s).1.2 = .ok () → ∀ d ∈ (evaluateAll ds s).1.1, d.2.state = .evaluated) := by
  induction ds generalizing s with
  | nil => exact ⟨fun d hd => absurd hd List.not_mem_nil, fun _ d hd => absurd hd List.not_mem_nil⟩
  | cons d ds ih =>
    obtain ⟨specifier, m⟩ := d
    rw [evaluateAll_cons]
    obtain ⟨hfirst, hstate⟩ := hends (specifier, m) (List.mem_cons_self ..) s
    generalize evaluate m s = ended at hfirst hstate ⊢
    obtain ⟨⟨m', e | exports⟩, s₁⟩ := ended
    · refine ⟨fun d hd => ?_, nofun⟩
      rcases List.mem_cons.1 hd with rfl | hd
      · exact hfirst
      · exact .linked (hds d (List.mem_cons_of_mem _ hd))
    · obtain ⟨hrest, hall⟩ := ih (fun d hd => hds d (List.mem_cons_of_mem _ hd))
        (fun d hd => hends d (List.mem_cons_of_mem _ hd)) s₁
      refine ⟨fun d hd => ?_, fun hok d hd => ?_⟩
      · rcases List.mem_cons.1 hd with rfl | hd
        · exact hfirst
        · exact hrest d hd
      · rcases List.mem_cons.1 hd with rfl | hd
        · exact hstate exports rfl
        · exact hall hok d hd

/-- **A linked tree is settled when its evaluation ends,** and its root is evaluated unless it has failed. -/
theorem LinkedTree.settled_evaluate (h : LinkedTree m) (s : Session) : Settled (m.evaluate s).1.1 ∧
    ∀ exports, (m.evaluate s).1.2 = .ok exports → (m.evaluate s).1.1.state = .evaluated := by
  -- The induction is on the tree: what is below the root is settled after its own evaluation (`ih`).
  induction h generalizing s with
  | @node url context kind ds _ hdependencies ih =>
    rw [evaluate_linked]
    obtain ⟨hsettled, hevaluated⟩ := settled_evaluateAll hdependencies ih s
    generalize evaluateAll ds s = ended at hsettled hevaluated ⊢
    obtain ⟨⟨ds', e | ⟨⟩⟩, s₁⟩ := ended
    · exact ⟨.failed hsettled, nofun⟩
    · cases hrun : (Module.node url context kind .evaluating none ds').runExports.run s₁ with
      | mk result s₂ =>
        cases result with
        | error e =>
          simp only [finish_of_error hrun]
          exact ⟨.failed hsettled, nofun⟩
        | ok exports =>
          simp only [finish_of_ok hrun]
          exact ⟨.evaluated hsettled (hevaluated rfl), fun _ _ => rfl⟩

/-- **What is settled stays settled,** whatever is asked of it. -/
theorem Settled.perform (h : Settled m) (c : Command) (s : Session) : Settled (m.perform c s).1.1 := by
  cases c with
  | link l =>
    by_cases hstate : m.state = .unlinked
    · rw [h.eq_new hstate]
      rcases link_new l m.url m.kind m.context s with ⟨t, s', hlink, ht⟩ | ⟨e, s', hlink, -⟩
      · rw [Module.perform, hlink]
        exact .linked ht
      · rw [Module.perform, hlink]
        exact .failed fun d hd => absurd hd List.not_mem_nil
    · rw [Module.perform, link_of_ne_unlinked l hstate]
      exact h
  | evaluate =>
    rw [perform_evaluate]
    by_cases hstate : m.state = .linked
    · exact ((h.linkedTree hstate).settled_evaluate s).1
    · rw [evaluate_of_ne_linked hstate]
      exact h

theorem Settled.after (h : Settled m) (history : List (Command × Session)) : Settled (m.after history) := by
  induction history generalizing m with
  | nil => exact h
  | cons c history ih => exact ih (h.perform c.1 c.2)

/-- **Only the root is ever refused anything:** a command that stops at a wrong state stops at the root, before
anything has changed. -/
theorem Settled.refused (h : Settled m) {c : Command} {s : Session} {e : StateError}
    (hrefused : (m.perform c s).1.2 = .error (.state e)) :
    e = ⟨m.url, m.state, c.start⟩ ∧ m.perform c s = ((m, .error (.state e)), s) := by
  cases c with
  | link l =>
    by_cases hstate : m.state = .unlinked
    · rw [h.eq_new hstate, Module.perform] at hrefused
      rcases link_new l m.url m.kind m.context s with ⟨t, s', hlink, -⟩ | ⟨e', s', hlink, hne⟩
      · rw [hlink] at hrefused
        cases hrefused
      · rw [hlink] at hrefused
        exact absurd (Except.error.inj hrefused) (hne e)
    · have hlink : m.perform (.link l) s = _ := link_of_ne_unlinked l hstate s
      rw [hlink] at hrefused ⊢
      cases hrefused
      exact ⟨rfl, rfl⟩
  | evaluate =>
    by_cases hstate : m.state = .linked
    · have hrunning := @LinkedTree.ofRunning m (h.linkedTree hstate) s (.state e)
      rw [perform_evaluate] at hrefused
      generalize (m.evaluate s).1.2 = result at hrunning hrefused
      cases result with
      | ok exports => cases hrefused
      | error e' =>
        cases hrefused
        exact absurd rfl ((hrunning rfl).isStateless e)
    · rw [perform_evaluate, evaluate_of_ne_linked hstate] at hrefused ⊢
      cases hrefused
      exact ⟨rfl, rfl⟩

/-! ### The whole life -/

/-- **The life of a tree of modules.**  After any commands on a module that was built, every module of the tree is
at rest; a module that has come to an end keeps its state and its exports for good; if the module cannot be
linked, it has failed for good with nothing below it; and a command that is refused because of a state is refused
by the root and changes nothing. -/
theorem lifecycle {b : Builder} {url : Url} {context : ObjectId} {built : Module} {s₀ s₁ : Session}
    (hbuild : (b.build url context).run s₀ = (.ok built, s₁)) (history : List (Command × Session)) :
    let m := built.after history
    (∀ q x, m.at? q = some x → AtRest x) ∧
      (∀ q x, m.at? q = some x → x.state.isTerminal → ∀ later, ∃ y, (m.after later).at? q = some y ∧
        y.state = x.state ∧ y.exports = x.exports) ∧
      (∀ (l : Linker) s e, m.state = .unlinked → (l.link m s).1.2 = .error e → ∀ later,
        ((l.link m s).1.1.after later).state = .failed ∧ ((l.link m s).1.1.after later).dependencies = []) ∧
      (∀ c s e, (m.perform c s).1.2 = .error (.state e) →
        e = ⟨m.url, m.state, c.start⟩ ∧ m.perform c s = ((m, .error (.state e)), s)) := by
  intro m
  obtain ⟨kind, rfl⟩ := Builder.eq_new_of_build hbuild
  have hm : Settled m := (Settled.unlinked url context kind).after history
  refine ⟨fun q x hx => (hm.at? hx).atRest, fun q x hx hterminal later => ?_, fun l s e hstate herror later => ?_,
    fun c s e hrefused => hm.refused hrefused⟩
  · rw [after_of_terminal (hm.root_terminal hx hterminal)]
    exact ⟨x, hx, rfl, rfl⟩
  · rw [hm.eq_new hstate] at herror ⊢
    rcases link_new l m.url m.kind m.context s with ⟨t, s', hlink, -⟩ | ⟨e', s', hlink, -⟩
    · rw [hlink] at herror
      cases herror
    · rw [hlink, after_of_terminal rfl]
      exact ⟨rfl, rfl⟩

/-- A file that imports one that throws: it is linked, then it fails, and then it is refused. -/
theorem lifecycle_throwing :
    let url : Url := ⟨"file", none, .segments ["a"], none, none⟩
    let files : Files := ⟨[("/a", .file "import './b';".toUTF8), ("/b", .file "throw null;".toUTF8)], []⟩
    let b : Builder := ⟨⟨⟨"/cache"⟩, fun _ => .error "offline", false⟩, .empty⟩
    let l : Linker := { resolver := ⟨"http://a/", [], .empty, url⟩, builder := b, depth := 2 }
    let s : Session := ⟨⟨files, [], [], [], 0⟩, .empty ⟨none, "/tmp", none, [], 1, "linux", "x64"⟩⟩
    let history : List (Command × Session) := [(.link l, s), (.evaluate, s)]
    ∃ built s₁, (b.build url 0).run s = (.ok built, s₁) ∧
      let m := built.after history
      m.state = .failed ∧ m.dependencies.map (·.2.state) = [.failed] ∧ (∀ q x, m.at? q = some x → AtRest x) ∧
        m.perform (.link l) s = ((m, .error (.state ⟨m.url, .failed, .linking⟩)), s) := by
  intro url files b l s history
  have hok : ((b.build url 0).run s).1.isOk := by decide +kernel
  cases hbuild : (b.build url 0).run s with
  | mk result s₁ =>
    rw [hbuild] at hok
    cases result with
    | error e => cases hok
    | ok built =>
      have hbuilt : built = ((b.build url 0).run s).1.toOption.getD (.new url (.source ⟨[]⟩) 0) := by
        rw [hbuild]
        rfl
      have hstate : (built.after history).state = .failed := by
        rw [hbuilt]
        decide +kernel
      have hbelow : (built.after history).dependencies.map (·.2.state) = [.failed] := by
        rw [hbuilt]
        decide +kernel
      have hrefused : ((built.after history).perform (.link l) s).1.2 =
          .error (.state ⟨(built.after history).url, .failed, .linking⟩) := by
        rw [perform_of_terminal (by rw [hstate]; rfl), hstate]
        rfl
      obtain ⟨hrest, -, -, hunchanged⟩ := lifecycle hbuild history
      exact ⟨built, s₁, rfl, hstate, hbelow, hrest, (hunchanged _ _ _ hrefused).2⟩

end Module
end ScriptImport
