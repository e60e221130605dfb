/-
# What a linked module finds when it runs

Running a program looks modules up for the specifiers of its imports, of its exports from other modules and of its
`export *` (`LooksUp`).  Linking goes through the same specifiers, so they all have a module below
(`exists_dependency`).  `Runs` follows an evaluation down to the modules whose bodies it runs, as they are
then: everything below such a module has been evaluated, so whatever it looks up has exports (`Runs.ready`).  What is
left for the evaluation of a linked module to fail for is that a script fails or an export is missing
(`finds_what_it_looks_up`).
-/

import ScriptImport.Proofs.Module.Readiness

namespace ScriptImport
namespace Module

open Script Syntax

/-- Running the module `m` looks a module up for a specifier: to bind an import, to export names of another module,
or to pass all of its exports on. -/
inductive LooksUp (m : Module) : (specifier : String) → Prop where
  | binding {p : Program} {i : Import} (hkind : m.kind = .source p) (hi : .importing i ∈ p.body) : LooksUp m i.source
  | names {p : Program} {ns : List ExportName} {specifier : String} (hkind : m.kind = .source p)
      (hi : .exporting (.namesFrom ns specifier) ∈ p.body) : LooksUp m specifier
  | all {p : Program} {specifier : String} (hkind : m.kind = .source p)
      (hi : .exporting (.allFrom specifier) ∈ p.body) : LooksUp m specifier

mutual

/-- While the module `m` is evaluated in the session `s`, the body of `x` is run in the session `s'`; everything
below `x` is then as it has become. -/
inductive Runs : (m : Module) → (s : Session) → (x : Module) → (s' : Session) → Prop where
  | own {url : Url} {context : ObjectId} {kind : ModuleKind} {exports : Option Namespace}
      {ds ds' : List (String × Module)} {s s' : Session} (hbelow : evaluateAll ds s = ((ds', .ok ()), s')) :
      Runs (.node url context kind .linked exports ds) s (.node url context kind .evaluating exports ds') s'
  | deeper {url : Url} {context : ObjectId} {kind : ModuleKind} {exports : Option Namespace}
      {ds : List (String × Module)} {s : Session} {x : Module} {s' : Session} (h : RunsBelow ds s x s') :
      Runs (.node url context kind .linked exports ds) s x s'

/-- While modules are evaluated one after the other, the body of `x` is run. -/
inductive RunsBelow : (ds : List (String × Module)) → (s : Session) → (x : Module) → (s' : Session) → Prop where
  | first {specifier : String} {m : Module} {ds : List (String × Module)} {s : Session} {x : Module} {s' : Session}
      (h : Runs m s x s') : RunsBelow ((specifier, m) :: ds) s x s'
  | later {specifier : String} {m m' : Module} {exports : Namespace} {ds : List (String × Module)}
      {s s₁ : Session} {x : Module} {s' : Session} (hfirst : m.evaluate s = ((m', .ok exports), s₁))
      (h : RunsBelow ds s₁ x s') : RunsBelow ((specifier, m) :: ds) s x s'

end

variable {m x : Module} {s s' : Session} {specifier : String}

/-- What is looked up is what is requested, and nothing else. -/
theorem looksUp_iff : m.LooksUp specifier ↔ specifier ∈ m.requests := by
  rw [requests]
  cases hkind : m.kind with
  | synthetic b names =>
    refine iff_of_false (fun h => ?_) List.not_mem_nil
    cases h <;> rename_i hsource _ <;> rw [hkind] at hsource <;> cases hsource
  | source p =>
    dsimp only
    rw [Program.mem_requests]
    constructor
    · intro h
      cases h with
      | binding hsource hi => exact ⟨_, (ModuleKind.source.inj (hkind.symm.trans hsource)) ▸ hi, rfl⟩
      | names hsource hi => exact ⟨_, (ModuleKind.source.inj (hkind.symm.trans hsource)) ▸ hi, rfl⟩
      | all hsource hi => exact ⟨_, (ModuleKind.source.inj (hkind.symm.trans hsource)) ▸ hi, rfl⟩
    · rintro ⟨i, hi, hrequest⟩
      unfold Item.request? at hrequest
      split at hrequest <;> cases hrequest
      · exact .binding hkind hi
      · exact .names hkind hi
      · exact .all hkind hi

theorem LinkedTree.specifiers (h : LinkedTree m) : m.dependencies.map (·.1) = m.requests := by
  cases h with
  | node hspecifiers _ => exact hspecifiers

theorem LinkedTree.of_mem (h : LinkedTree m) : ∀ d ∈ m.dependencies, LinkedTree d.2 := by
  cases h with
  | node _ hdependencies => exact hdependencies

/-- What goes through the requests of a module has a module below it for whatever the module looks up. -/
theorem exists_dependency (hspecifiers : m.dependencies.map (·.1) = m.requests) (hlooks : m.LooksUp specifier) :
    ∃ d, m.dependency? specifier = some d ∧ (specifier, d) ∈ m.dependencies := by
  refine exists_lookup_of_mem ?_
  rw [hspecifiers]
  exact looksUp_iff.1 hlooks

mutual

/-- A module whose body is run in a linked tree has everything that it looks up. -/
theorem Runs.ready {m x : Module} {s s' : Session} (hspecifiers : m.dependencies.map (·.1) = m.requests)
    (hbelow : ∀ d ∈ m.dependencies, LinkedTree d.2) : Runs m s x s' → x.Ready
  | .own hall => ready_of_evaluateAll hspecifiers.symm hall
  | .deeper h => RunsBelow.ready hbelow h

theorem RunsBelow.ready {ds : List (String × Module)} {x : Module} {s s' : Session}
    (hds : ∀ d ∈ ds, LinkedTree d.2) : RunsBelow ds s x s' → x.Ready
  | .first h =>
    have hm := hds _ (List.mem_cons_self ..)
    h.ready hm.specifiers hm.of_mem
  | .later _ h => h.ready fun d hd => hds d (List.mem_cons_of_mem _ hd)

end

/-- **A module that has been linked finds what it looks up.**  When it is evaluated, in whatever session that is, the
evaluation succeeds, or a script fails or an export is missing; no module is ever found in the wrong state.  Each
module of the tree has a module below it for each specifier that it looks up, and when its body is run that module
has its exports. -/
theorem finds_what_it_looks_up {l : Linker} {s₀ s₁ : Session} {t : Module} (hlink : l.link m s₀ = ((t, .ok ()), s₁))
    (s : Session) :
    (∀ e, (t.evaluate s).1.2 = .error e →
      (∃ error, e = .eval error) ∨ ∃ specifier name, e = .missingExport specifier name) ∧
    (∀ q x, t.at? q = some x → ∀ specifier, x.LooksUp specifier →
      ∃ d, x.dependency? specifier = some d ∧ (specifier, d) ∈ x.dependencies) ∧
    ∀ x s', Runs t s x s' → ∀ specifier, x.LooksUp specifier →
      ∃ d exports, x.dependency? specifier = some d ∧ d.exports = some exports ∧
        (x.importedFrom specifier).run s' = (.ok exports, s') := by
  obtain ⟨ds, rfl, hspecifiers, hds⟩ := Linker.below_of_link (congrArg Prod.fst hlink)
  refine ⟨fun e herror => ?_, fun q x hx specifier hlooks => ?_, fun x s' hruns specifier hlooks => ?_⟩
  · cases evaluate_ofRunning hspecifiers (fun d hd _ _ => (hds d hd).ofRunning) herror with
    | eval error => exact .inl ⟨error, rfl⟩
    | missingExport specifier name => exact .inr ⟨specifier, name, rfl⟩
  · cases q with
    | nil =>
      cases hx
      exact exists_dependency hspecifiers hlooks
    | cons i q =>
      obtain ⟨d, hd, hx⟩ := Option.bind_eq_some_iff.1 hx
      exact exists_dependency ((hds d (List.mem_of_getElem? hd)).at? hx).specifiers hlooks
  · have hready : x.Ready := @Runs.ready (.node ..) x s s' hspecifiers hds hruns
    obtain ⟨d, exports, hd, hexports⟩ := hready specifier (looksUp_iff.1 hlooks)
    exact ⟨d, exports, hd, hexports, run_importedFrom_of_exports hd hexports s'⟩

/-- The export that an evaluation has found missing, with the specifier of its module. -/
def missing? : Except LoadError Namespace → Option (String × String)
  | .error (.missingExport specifier name) => some (specifier, name)
  | _ => none

/-- A file imports a name that the other file does not export: the two are linked, and then it is the export that is
missing and not the module. -/
theorem finds_what_it_looks_up_missing :
    let url : Url := ⟨"file", none, .segments ["a"], none, none⟩
    let files : Files := ⟨[("/b", .file "export const d = 1;".toUTF8)], []⟩
    let b : Builder := ⟨⟨⟨"/cache"⟩, fun _ => .error "offline", false⟩, .empty⟩
    let l : Linker := { resolver := ⟨"http://a/", [], .empty, url⟩, builder := b, depth := 2 }
    let s : Session := ⟨⟨files, [], [], [], 0⟩, .empty ⟨none, "/tmp", none, [], 1, "linux", "x64"⟩⟩
    let m : Module := .new url (.source ⟨[.importing ⟨"./b", none, .some [⟨"c", "c"⟩]⟩]⟩) 0
    ∃ t s₁, l.link m s = ((t, .ok ()), s₁) ∧ (∃ d, ("./b", d) ∈ t.dependencies) ∧
      (t.evaluate s₁).1.2 = .error (.missingExport "./b" "c") := by
  intro url files b l s m
  have hok : (l.link m s).1.2.isOk := by decide +kernel
  have hmissing : missing? ((l.link m s).1.1.evaluate (l.link m s).2).1.2 = some ("./b", "c") := by decide +kernel
  cases hlink : l.link m s with
  | mk linked s₁ =>
    obtain ⟨t, e | ⟨⟩⟩ := linked
    · rw [hlink] at hok
      cases hok
    · rw [hlink] at hmissing
      obtain ⟨herrors, hdependencies, -⟩ := finds_what_it_looks_up hlink s₁
      have hkind : t.kind = m.kind := by
        obtain ⟨ds, rfl, -⟩ := Linker.below_of_link (congrArg Prod.fst hlink)
        rfl
      obtain ⟨d, -, hd⟩ := hdependencies [] t rfl "./b" (.binding hkind (List.mem_singleton.2 rfl))
      cases hresult : (t.evaluate s₁).1.2 with
      | ok exports =>
        rw [hresult] at hmissing
        cases hmissing
      | error e =>
        rw [hresult] at hmissing
        rcases herrors e hresult with ⟨error, rfl⟩ | ⟨specifier, name, rfl⟩ <;> cases hmissing
        exact ⟨t, s₁, rfl, ⟨d, hd⟩, hresult⟩

end Module
end ScriptImport
