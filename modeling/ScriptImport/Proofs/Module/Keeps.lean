/-
# Loading keeps what is held

Loading leaves the store of the scripts alone, but for running scripts.  So building and linking modules keeps what is
held (`Linker.upholds_link`), and evaluating them does, because scripts do (`Module.upholds_evaluate`), if the builtin
modules do.  So does a whole import (`Loader.keeps_load`).
-/

import ScriptImport.Loader
import ScriptImport.Proofs.Module.Evaluate
import ScriptImport.Proofs.Script.ApartRuns
import ScriptImport.Proofs.Script.KeepsRuns

namespace ScriptImport

open Script

variable {gone : Thing → Bool} {kept kept' : Set Thing}

/-! ### Builtin modules -/

namespace Builtin

/-- A builtin module whose exports are held when they are read, and do not depend on what is gone. -/
structure Keeps (gone : Thing → Bool) (kept : Set Thing) (b : Builtin) : Prop where
  exportNames : ∀ s : Store, kept ⊆ s.live gone → b.exportNames (s.free gone) = b.exportNames s
  value? : ∀ name, ScriptImport.Keeps gone (.option .value) kept (b.value? name)

theorem Keeps.mono {b : Builtin} (h : b.Keeps gone kept) (hkept : kept ⊆ kept') : b.Keeps gone kept' :=
  ⟨fun s hs => h.exportNames s (hkept.trans hs), fun name => (h.value? name).mono hkept⟩

theorem keeps_ofExports {name : String} {exports : Dict (Run Value)}
    (h : ∀ e ∈ exports, ScriptImport.Keeps gone .value kept e.2) : (ofExports name exports).Keeps gone kept where
  exportNames _ _ := rfl
  value? key := by
    unfold ofExports
    dsimp only
    cases hmake : Dict.get? exports key with
    | none => exact .pure (a := none) nofun
    | some make =>
      exact (h _ (Dict.mem_of_get? hmake)).bind fun _ v _ hv => .pure (a := some v) fun _ h => Option.some.inj h ▸ hv

theorem keeps_function (name : String) {operation : Operation} (h : operation.Held kept) :
    ScriptImport.Keeps gone .value kept (function name operation).2 := Run.keeps_newNative name operation h

theorem keeps_path : path.Keeps gone kept :=
  keeps_ofExports (by
    simp only [List.forall_mem_cons]
    exact ⟨keeps_function _ trivial, keeps_function _ trivial, keeps_function _ trivial, keeps_function _ trivial,
      .pure (a := Value.string "/") trivial, fun _ h => absurd h List.not_mem_nil⟩)

theorem keeps_os : os.Keeps gone kept :=
  keeps_ofExports (by
    simp only [List.forall_mem_cons]
    exact ⟨.pure (a := Value.string "\n") trivial, keeps_function _ trivial, keeps_function _ trivial,
      keeps_function _ trivial, keeps_function _ trivial, fun _ h => absurd h List.not_mem_nil⟩)

theorem keeps_process : process.Keeps gone kept :=
  keeps_ofExports (by
    simp only [List.forall_mem_cons]
    refine ⟨keeps_function _ trivial, Run.keeps_bind_get fun s _ _ => ⟨rfl, ?_⟩,
      Run.keeps_bind_get fun s _ _ => ⟨rfl, .pure (a := Value.number (Float.ofNat s.host.processId)) trivial⟩,
      Run.keeps_bind_get fun s _ _ => ⟨rfl, .pure (a := Value.string s.host.platform) trivial⟩,
      fun _ h => absurd h List.not_mem_nil⟩
    have hstrings : ∀ e ∈ Dict.mapValues Value.string s.host.environment, e.2.Held (s.live gone) := by
      intro e he
      obtain ⟨entry, -, rfl⟩ := List.mem_map.1 he
      trivial
    exact (Run.keeps_newObject hstrings).bind fun _ o _ ho => .pure (a := Value.object o) ho)

theorem keeps_crypto : crypto.Keeps gone kept :=
  keeps_ofExports (by
    simp only [List.forall_mem_cons]
    exact ⟨keeps_function _ trivial, fun _ h => absurd h List.not_mem_nil⟩)

end Builtin

namespace Registry

/-- All modules of a registry keep what is held. -/
def Keeps (gone : Thing → Bool) (kept : Set Thing) (r : Registry) : Prop :=
  ∀ {name : String} {b : Builtin}, r.get? name = some b → b.Keeps gone kept

theorem Keeps.mono {r : Registry} (h : r.Keeps gone kept) (hkept : kept ⊆ kept') : r.Keeps gone kept' :=
  fun hb => (h hb).mono hkept

/-- **The modules that are always there** keep what is held. -/
theorem keeps_default : Registry.default.Keeps gone kept :=
  of_default Builtin.keeps_path Builtin.keeps_os Builtin.keeps_process Builtin.keeps_crypto

end Registry

/-! ### Sessions, errors and modules -/

/-- An error that names only what is kept, and that is not that a function has lost its scope. -/
def LoadError.Held (kept : Set Thing) : LoadError → Prop
  | eval e => e.Held kept
  | _ => True

theorem LoadError.Held.mono {e : LoadError} (hkept : kept ⊆ kept') (h : e.Held kept) : e.Held kept' := by
  cases e with
  | eval e => exact EvalError.Held.mono hkept h
  | _ => trivial

/-- A builtin module that a module is made of keeps what is held. -/
def ModuleKind.Keeps (gone : Thing → Bool) (kept : Set Thing) : ModuleKind → Prop
  | source _ => True
  | synthetic b _ => b.Keeps gone kept

theorem ModuleKind.Keeps.mono {kind : ModuleKind} (h : kind.Keeps gone kept) (hkept : kept ⊆ kept') :
    kind.Keeps gone kept' := by
  cases kind with
  | source p => trivial
  | synthetic b names => exact Builtin.Keeps.mono h hkept

namespace Grip

abbrev loadError : Grip LoadError := ⟨LoadError.Held, LoadError.Held.mono⟩

/-- Properties of an object, or exports. -/
abbrev properties : Grip (Dict Value) := .list .entry

abbrev exports : Grip Namespace :=
  ⟨fun kept n => Grip.properties.Held kept n.entries, fun h hn => Grip.properties.mono h hn⟩

end Grip

namespace Module

mutual

/-- What a module and the modules below it name is kept, and the builtin modules among them keep what is held. -/
def Held (gone : Thing → Bool) (kept : Set Thing) : Module → Prop
  | node _ context kind _ exports dependencies =>
    .object context ∈ kept ∧ kind.Keeps gone kept ∧ Grip.exports.option.Held kept exports ∧
      AllHeld gone kept dependencies

/-- What modules name is kept. -/
def AllHeld (gone : Thing → Bool) (kept : Set Thing) : List (String × Module) → Prop
  | [] => True
  | (_, m) :: rest => m.Held gone kept ∧ AllHeld gone kept rest

end

mutual

theorem Held.mono (h : kept ⊆ kept') : ∀ {m : Module}, m.Held gone kept → m.Held gone kept'
  | node _ _ _ _ _ _, hm =>
    ⟨h hm.1, hm.2.1.mono h, Grip.exports.option.mono h hm.2.2.1, AllHeld.mono h hm.2.2.2⟩

theorem AllHeld.mono (h : kept ⊆ kept') : ∀ {ms : List (String × Module)}, AllHeld gone kept ms → AllHeld gone kept' ms
  | [], _ => trivial
  | _ :: _, hms => ⟨hms.1.mono h, AllHeld.mono h hms.2⟩

end

theorem allHeld_iff {ms : List (String × Module)} : AllHeld gone kept ms ↔ ∀ e ∈ ms, e.2.Held gone kept := by
  induction ms with
  | nil => exact iff_of_true trivial nofun
  | cons e rest ih => rw [List.forall_mem_cons, ← ih]; rfl

variable {m : Module}

theorem Held.context (h : m.Held gone kept) : .object m.context ∈ kept := by
  cases m; exact h.1

theorem Held.kind (h : m.Held gone kept) : m.kind.Keeps gone kept := by
  cases m; exact h.2.1

theorem Held.exports (h : m.Held gone kept) : ∀ n ∈ m.exports, Grip.exports.Held kept n := by
  cases m; exact h.2.2.1

theorem Held.dependencies (h : m.Held gone kept) : ∀ e ∈ m.dependencies, e.2.Held gone kept := by
  cases m; exact allHeld_iff.1 h.2.2.2

theorem Held.withState (h : m.Held gone kept) (state : ModuleState) : (m.withState state).Held gone kept := by
  cases m; exact h

theorem Held.withDependencies (h : m.Held gone kept) {dependencies : List (String × Module)}
    (hall : ∀ e ∈ dependencies, e.2.Held gone kept) : (m.withDependencies dependencies).Held gone kept := by
  cases m; exact ⟨h.1, h.2.1, h.2.2.1, allHeld_iff.2 hall⟩

theorem Held.withExports (h : m.Held gone kept) {exports : Namespace} (hall : Grip.exports.Held kept exports) :
    (m.withExports exports).Held gone kept := by
  cases m; exact ⟨h.1, h.2.1, fun n hn => Option.some.inj hn ▸ hall, h.2.2.2⟩

theorem Held.fail (h : m.Held gone kept) : m.fail.Held gone kept := by
  unfold Module.fail
  split
  · exact h
  · exact h.withState .failed

theorem Held.transition (h : m.Held gone kept) {next : ModuleState} {m' : Module}
    (hm : m.transition next = .ok m') : m'.Held gone kept := by
  unfold Module.transition at hm
  split at hm
  · exact Except.ok.inj hm ▸ h.withState next
  · cases hm

end Module

namespace Grip

abbrev module (gone : Thing → Bool) : Grip Module := ⟨Module.Held gone, fun h hm => hm.mono h⟩

abbrev dependency (gone : Thing → Bool) : Grip (String × Module) :=
  ⟨fun kept e => e.2.Held gone kept, fun h he => he.mono h⟩

/-- A module and what came of it. -/
abbrev outcome {α : Type} (gone : Thing → Bool) (K : Grip α) : Grip (Module × Except LoadError α) :=
  .pair (.module gone) (.except .loadError K)

end Grip

instance : HasStore Session LoadError := ⟨Session.scripts, fun s scripts => { s with scripts }, .loadError⟩

/-! ### Steps of loading -/

namespace Load

variable {α : Type} {K : Grip α}

theorem keeps_bind_get {f : Session → Load α}
    (h : ∀ s : Session, s.scripts.Sound gone → kept ⊆ s.scripts.live gone →
      f { s with scripts := s.scripts.free gone } = f s ∧ Keeps gone K (s.scripts.live gone) (f s)) :
    Keeps gone K kept (get >>= f) := .bind_get h

theorem keeps_onWeb (act : StateM Web α) : Keeps gone (.any α) kept (onWeb act) := fun _ _ _ =>
  ⟨⟨[], .done⟩, trivial, rfl⟩

theorem keeps_log (e : Event) : Keeps gone (.any Unit) kept (log e) := keeps_onWeb _

/-- Running a script keeps what is held if the script does. -/
theorem keeps_script {x : Run α} (h : Keeps gone K kept x) : Keeps gone K kept (script x) := by
  unfold Keeps
  rw [funext (run_script x)]
  intro s hs hsub
  obtain ⟨hgoes, hheld, hfreed⟩ := h s.scripts hs hsub
  have hfreed : x.run (s.scripts.free gone) = _ := hfreed
  refine ⟨hgoes, ?_, ?_⟩
  · dsimp only
    cases hresult : (x.run s.scripts).1 with
    | ok a =>
      rw [hresult] at hheld
      exact hheld
    | error e =>
      rw [hresult] at hheld
      exact hheld
  · dsimp only [HasStore.free, HasStore.withStore, HasStore.store]
    rw [hfreed]
    rfl

theorem keeps_ofState {r : Except StateError Module} (hr : ∀ m, r = .ok m → m.Held gone kept) :
    Keeps gone (.module gone) kept (ofState r) := by
  cases r with
  | ok m => exact .pure (hr m rfl)
  | error e => exact .throw (e := LoadError.state e) trivial

end Load

/-! ### Building and linking -/

namespace Builder

/-- **Building** keeps what is held. -/
theorem keeps_build {b : Builder} {context : ObjectId} (hb : b.builtins.Keeps gone kept) (url : Url)
    (hcontext : .object context ∈ kept) : Keeps gone (.module gone) kept (b.build url context) := by
  have hnew {kept : Set Thing} {kind : ModuleKind} (hcontext : .object context ∈ kept)
      (hkind : kind.Keeps gone kept) : (Module.new url kind context).Held gone kept := ⟨hcontext, hkind, nofun, trivial⟩
  unfold build
  split
  · refine (Load.keeps_onWeb (b.fetcher.fetch url)).bind fun kept₁ result hkept₁ _ => ?_
    cases result with
    | error e => exact .throw (e := LoadError.fetch e) trivial
    | ok fetched =>
      dsimp only
      cases Syntax.parse fetched.body with
      | error e => exact .throw (e := LoadError.parse url e) trivial
      | ok p =>
        exact (Load.keeps_log _).bind fun _ _ hkept₂ _ =>
          .pure (a := Module.ofProgram url p context) (hnew (hkept₂ (hkept₁ hcontext)) trivial)
  · split
    · unfold buildBuiltin
      cases hbuiltin : b.builtins.get? (builtinName url) with
      | none => exact .throw (e := LoadError.unknownBuiltin _) trivial
      | some builtin =>
        have hkeeps := hb hbuiltin
        refine Load.keeps_bind_get fun s _ hsub => ⟨?_, ?_⟩
        · dsimp only
          rw [Module.ofBuiltin, hkeeps.exportNames s.scripts hsub]
          rfl
        · exact (Load.keeps_log _).bind fun _ _ hkept _ =>
            .pure (hnew (hkept (hsub hcontext)) (hkeeps.mono (hsub.trans hkept)))
    · exact .throw (e := LoadError.resolve (.scheme url)) trivial

end Builder

namespace Linker

variable {l : Linker} {m : Module}

theorem keeps_dependency (hl : l.builder.builtins.Keeps gone kept) {link : Module → Load Module}
    (hlink : ∀ {kept' : Set Thing} {m : Module}, kept ⊆ kept' → m.Held gone kept' →
      Keeps gone (.module gone) kept' (link m)) (hm : m.Held gone kept) (above : List Url) (specifier : String) :
    Keeps gone (.module gone) kept (l.dependency link m above specifier) := by
  unfold dependency
  cases l.resolver.resolve specifier (some m.url) with
  | error e => exact .throw (e := LoadError.resolve e) trivial
  | ok url =>
    dsimp only
    split
    · exact .throw (e := LoadError.circular _) trivial
    · refine (Load.keeps_log _).bind fun kept₁ _ hkept₁ _ => ?_
      exact (Builder.keeps_build (hl.mono hkept₁) url (hkept₁ hm.context)).bind fun _ _ hkept₂ hbuilt =>
        hlink (hkept₁.trans hkept₂) hbuilt

theorem keeps_linkBelow (hl : l.builder.builtins.Keeps gone kept) (depth : Nat) (above : List Url) {m : Module}
    (hm : m.Held gone kept) : Keeps gone (.module gone) kept (l.linkBelow depth above m) := by
  induction depth generalizing above m kept with
  | zero => exact .throw (e := LoadError.endless _) trivial
  | succ depth ih =>
    rw [linkBelow]
    refine (Load.keeps_ofState fun _ => hm.transition).bind fun kept₁ m hkept₁ hm => ?_
    dsimp only
    have hdependencies : Keeps gone (Grip.dependency gone).list kept₁
        (m.requests.mapM fun specifier => do
          return (specifier, ← l.dependency (l.linkBelow depth (above ++ [m.url])) m (above ++ [m.url]) specifier)) :=
      .mapM fun specifier _ kept₂ hkept₂ =>
        (keeps_dependency (hl.mono (hkept₁.trans hkept₂))
          (fun hkept hm' => ih (hl.mono ((hkept₁.trans hkept₂).trans hkept)) _ hm') (hm.mono hkept₂) _ specifier).bind
          fun _ m' _ hm' => .pure (a := (specifier, m')) hm'
    exact hdependencies.bind fun _ ms hkept₂ hms =>
      Load.keeps_ofState fun _ => ((hm.mono hkept₂).withDependencies hms).transition

/-- **Linking** keeps what is held. -/
theorem upholds_link (hl : l.builder.builtins.Keeps gone kept) (hm : m.Held gone kept) :
    Upholds gone (.outcome gone (.any Unit)) kept (l.link m) := by
  unfold link
  cases htransition : m.transition .linking with
  | error e => exact .pure (K := .outcome gone (.any Unit)) (a := (m, .error (.state e))) ⟨hm, trivial⟩
  | ok linking =>
    have hlinking := hm.transition htransition
    refine Upholds.bind (keeps_linkBelow hl l.depth [] hm) fun kept₁ result hkept₁ hresult => ?_
    cases result with
    | ok linked => exact .pure (K := .outcome gone (.any Unit)) (a := (linked, .ok ())) ⟨hresult, trivial⟩
    | error e =>
      exact .pure (K := .outcome gone (.any Unit)) (a := (linking.fail, .error e))
        ⟨(hlinking.mono hkept₁).fail, hresult⟩

end Linker

/-! ### Evaluating -/

namespace Module

open Syntax

variable {m : Module} {scope : Scope}

theorem keeps_importedFrom (hm : m.Held gone kept) (specifier : String) :
    Keeps gone .exports kept (m.importedFrom specifier) := by
  unfold importedFrom
  cases hdependency : m.dependency? specifier with
  | none => exact .throw (e := LoadError.state _) trivial
  | some dependency =>
    dsimp only
    cases hexports : dependency.exports with
    | none => exact .throw (e := LoadError.state _) trivial
    | some exports =>
      have hheld : dependency.Held gone kept := hm.dependencies _ (Dict.mem_of_get? hdependency)
      exact .pure (hheld.exports exports hexports)

theorem keeps_exported {exports : Namespace} (hexports : Grip.exports.Held kept exports) (specifier name : String) :
    Keeps gone .value kept (exported exports specifier name) := by
  unfold exported
  cases hget : Dict.get? exports.entries name with
  | none => exact .throw (e := LoadError.missingExport specifier name) trivial
  | some v => exact .pure (hexports _ (Dict.mem_of_get? hget))

theorem keeps_declare (hscope : Scope.Held kept scope) (name : String) {v : Value} (hv : v.Held kept) :
    Keeps gone (.any Unit) kept (Load.script (Run.declare scope name v false)) :=
  Load.keeps_script (Run.keeps_declare hscope.mem name hv false)

theorem keeps_bindImport (hm : m.Held gone kept) (hscope : Scope.Held kept scope) (i : Import) :
    Keeps gone (.any Unit) kept (m.bindImport scope i) := by
  obtain ⟨source, defaultName, names⟩ := i
  refine (keeps_importedFrom hm source).bind fun kept₁ exports hkept₁ hexports => ?_
  have hscope₁ := hscope.mono hkept₁
  have heverything {kept : Set Thing} (hscope : Scope.Held kept scope) (hexports : Grip.exports.Held kept exports)
      (name : String) : Keeps gone (.any Unit) kept (Load.script (Run.declare scope name exports.value false)) :=
    keeps_declare hscope name (Value.allHeld_iff.2 hexports)
  have hnames {kept : Set Thing} (hscope : Scope.Held kept scope) (hexports : Grip.exports.Held kept exports)
      (names : List ImportName) : Keeps gone (.any Unit) kept (names.forM fun n => do
        let v ← exported exports source n.imported
        Load.script (Run.declare scope n.localName v false)) :=
    .forM fun n _ _ hkept => (keeps_exported (Grip.exports.mono hkept hexports) source n.imported).bind
      fun _ _ hkept' hv => keeps_declare (hscope.mono (hkept.trans hkept')) n.localName hv
  cases defaultName with
  | none =>
    cases names with
    | everything name => exact heverything hscope₁ hexports name
    | some names => exact hnames hscope₁ hexports names
  | some name =>
    refine (keeps_exported hexports source "default").bind fun kept₂ v hkept₂ hv => ?_
    refine (keeps_declare (hscope₁.mono hkept₂) name hv).bind fun kept₃ _ hkept₃ _ => ?_
    have hscope₃ := hscope₁.mono (hkept₂.trans hkept₃)
    have hexports₃ := Grip.exports.mono (hkept₂.trans hkept₃) hexports
    cases names with
    | everything name => exact heverything hscope₃ hexports₃ name
    | some names => exact hnames hscope₃ hexports₃ names

theorem keeps_bindImports (hm : m.Held gone kept) (hscope : Scope.Held kept scope) (p : Program) :
    Keeps gone (.any Unit) kept (m.bindImports scope p) := by
  refine .forM fun item _ kept' hkept' => ?_
  cases item with
  | importing i => exact keeps_bindImport (hm.mono hkept') (hscope.mono hkept') i
  | _ => exact .pure trivial

theorem keeps_localValue (hscope : Scope.Held kept scope) (name : String) :
    Keeps gone .value kept (localValue scope name) := by
  refine Load.keeps_bind_get fun s hs hsub => ⟨?_, ?_⟩
  · rw [Store.lookup?_free (Run.not_gone_of_held hscope hsub)]
  · cases hlookup : s.scripts.lookup? name scope with
    | none => exact .throw (e := LoadError.eval (.unbound name)) trivial
    | some v => exact .pure (hs.lookup? (Run.not_gone_of_held hscope hsub) hlookup)

/-- An export more. -/
theorem held_insert {entries : Dict Value} (hentries : Grip.properties.Held kept entries) (name : String) {v : Value}
    (hv : v.Held kept) : Grip.properties.Held kept (Dict.insert entries name v) := fun _ he =>
  (Dict.eq_or_mem_of_mem_insert he).elim (fun heq => heq ▸ hv) (hentries _)

/-- An export whose value is made by `x`. -/
theorem keeps_insert {entries : Dict Value} (hentries : Grip.properties.Held kept entries) (name : String)
    {x : Load Value} (h : Keeps gone .value kept x) :
    Keeps gone .properties kept (do return Dict.insert entries name (← x)) :=
  h.bind fun _ _ hkept hv => .pure (held_insert (Grip.properties.mono hkept hentries) name hv)

theorem keeps_collect (hm : m.Held gone kept) (hscope : Scope.Held kept scope) {entries : Dict Value}
    (hentries : Grip.properties.Held kept entries) (item : Item) :
    Keeps gone .properties kept (m.collect scope entries item) := by
  cases item with
  | exporting e =>
    cases e with
    | defaultValue e => exact keeps_insert hentries "default" (keeps_localValue hscope defaultBinding)
    | defaultFunction name params body =>
      exact keeps_insert hentries "default" (keeps_localValue hscope defaultBinding)
    | declaration declaration =>
      exact keeps_insert hentries declaration.name (keeps_localValue hscope declaration.name)
    | names names =>
      exact .foldlM (fun n _ _ _ hkept hes =>
        keeps_insert hes n.exported (keeps_localValue (hscope.mono hkept) n.localName)) hentries
    | namesFrom names source =>
      refine (keeps_importedFrom hm source).bind fun kept₁ exports hkept₁ hexports => ?_
      exact .foldlM (fun n _ _ _ hkept₂ hes => keeps_insert hes n.exported
        (keeps_exported (Grip.exports.mono hkept₂ hexports) source n.localName)) (Grip.properties.mono hkept₁ hentries)
    | allFrom source => exact .pure hentries
  | _ => exact .pure hentries

theorem held_foldl_addMissing {es entries : Dict Value} (hes : Grip.properties.Held kept es)
    (hentries : Grip.properties.Held kept entries) :
    Grip.properties.Held kept (es.foldl addMissing entries) := by
  induction es generalizing entries with
  | nil => exact hentries
  | cons e es ih =>
    obtain ⟨he, hes⟩ := List.forall_mem_cons.1 hes
    refine ih hes ?_
    unfold addMissing
    split
    · exact hentries
    · exact held_insert hentries e.1 he

theorem keeps_passOn (hm : m.Held gone kept) {entries : Dict Value} (hentries : Grip.properties.Held kept entries)
    (item : Item) : Keeps gone .properties kept (m.passOn entries item) := by
  cases item with
  | exporting e =>
    cases e with
    | allFrom source =>
      exact (keeps_importedFrom hm source).bind fun _ exports hkept hexports =>
        .pure (held_foldl_addMissing hexports (Grip.properties.mono hkept hentries))
    | _ => exact .pure hentries
  | _ => exact .pure hentries

theorem keeps_importScope (hm : m.Held gone kept) (p : Program) : Keeps gone .scope kept (m.importScope p) := by
  have hroot : Keeps gone .scope kept (Run.inner []) := Run.keeps_inner nofun
  exact (Load.keeps_script hroot).bind fun kept₁ scope hkept₁ hscope =>
    (keeps_bindImports (hm.mono hkept₁) hscope p).bind fun _ _ hkept₂ _ => .pure (hscope.mono hkept₂)

theorem keeps_runToEnd (hm : m.Held gone kept) (p : Program) : Keeps gone .scope kept (m.runToEnd p) :=
  (keeps_importScope hm p).bind fun _ _ hkept₁ hscope =>
    (Load.keeps_script (Run.keeps_runModule p ⟨hkept₁ hm.context, hscope⟩)).bind
      fun _ _ hkept₂ _ => .pure (hscope.mono hkept₂)

theorem keeps_runProgram (hm : m.Held gone kept) (p : Program) :
    Keeps gone .properties kept (m.runProgram p) := by
  refine (keeps_runToEnd hm p).bind fun kept₁ scope hkept₁ hscope => ?_
  have hcollected : Keeps gone .properties kept₁ (p.body.foldlM (m.collect scope) []) :=
    .foldlM (fun item _ _ _ hkept₂ hes => keeps_collect (hm.mono (hkept₁.trans hkept₂)) (hscope.mono hkept₂) hes item)
      fun _ h => absurd h List.not_mem_nil
  exact hcollected.bind fun kept₂ entries hkept₂ hentries =>
    .foldlM (fun item _ _ _ hkept₃ hes => keeps_passOn (hm.mono (hkept₁.trans (hkept₂.trans hkept₃))) hes item) hentries

theorem keeps_runBody (hm : m.Held gone kept) : Keeps gone .properties kept m.runBody := by
  rw [runBody_eq]
  have hkind := hm.kind
  generalize m.kind = kind at hkind
  cases kind with
  | source p => exact keeps_runProgram hm p
  | synthetic b names =>
    have hbuiltin : b.Keeps gone kept := hkind
    refine .foldlM (b := []) (fun name _ kept₁ entries hkept₁ hes => ?_) fun _ h => absurd h List.not_mem_nil
    refine (Load.keeps_script ((hbuiltin.mono hkept₁).value? name)).bind fun kept₂ v hkept₂ hv => ?_
    refine .pure (held_insert (Grip.properties.mono hkept₂ hes) name ?_)
    cases v with
    | none => trivial
    | some v => exact hv v rfl

theorem keeps_runExports (hm : m.Held gone kept) : Keeps gone .exports kept m.runExports := by
  refine (keeps_runBody hm).bind fun kept₁ entries _ hentries => ?_
  exact (Load.keeps_script Run.keeps_identity).bind fun kept₂ identity hkept₂ _ =>
    .pure (a := Namespace.mk identity m.url.text entries) (Grip.properties.mono hkept₂ hentries)

theorem upholds_finish (hm : m.Held gone kept) : Upholds gone (.outcome gone .exports) kept m.finish := by
  refine Upholds.bind (keeps_runExports hm) fun kept₁ result hkept₁ hresult => ?_
  have hm₁ := hm.mono hkept₁
  cases result with
  | error e =>
    exact .pure (K := .outcome gone .exports) (a := (m.fail, .error e)) ⟨hm₁.fail, hresult⟩
  | ok exports =>
    refine Upholds.bind (Load.keeps_log (.evaluated m.url exports.entries.length)) fun kept₂ _ hkept₂ _ => ?_
    exact .pure (K := .outcome gone .exports) (a := ((m.withExports exports).withState .evaluated, .ok exports))
      ⟨((hm₁.withExports hresult).withState _).mono hkept₂, Grip.exports.mono hkept₂ hresult⟩

mutual

/-- **Evaluating** keeps what is held. -/
theorem upholds_evaluate : ∀ (m : Module) {kept : Set Thing}, m.Held gone kept →
    Upholds gone (.outcome gone .exports) kept m.evaluate
  | node url context kind state exports dependencies, kept, hm => by
    rw [evaluate_node_eq]
    dsimp only
    by_cases hstate : state ≠ .linked
    · rw [if_pos hstate]
      exact .pure (K := .outcome gone .exports)
        (a := (node url context kind state exports dependencies, .error (.state ⟨url, state, .evaluating⟩)))
        ⟨hm, trivial⟩
    · rw [if_neg hstate]
      have hm' : Held gone kept ((node url context kind state exports dependencies).withState .evaluating) := hm
      refine (upholds_evaluateAll dependencies hm.2.2.2).bind fun kept₁ result hkept₁ hresult => ?_
      obtain ⟨dependencies', result⟩ := result
      have hall := (hm'.mono hkept₁).withDependencies hresult.1
      cases result with
      | error e => exact .pure (K := .outcome gone .exports) (a := (_, .error e)) ⟨hall.fail, hresult.2⟩
      | ok _ => exact upholds_finish hall

/-- Evaluating one module after the other keeps what is held. -/
theorem upholds_evaluateAll : ∀ (ms : List (String × Module)) {kept : Set Thing}, AllHeld gone kept ms →
    Upholds gone (.pair (.list (.dependency gone)) (.except .loadError (.any Unit))) kept (evaluateAll ms)
  | [], _, _ => by
    rw [evaluateAll_nil_eq]
    exact .pure (K := .pair (.list (.dependency gone)) (.except .loadError (.any Unit))) (a := ([], .ok ()))
      ⟨nofun, trivial⟩
  | (specifier, m) :: rest, kept, hms => by
    rw [evaluateAll_cons_eq]
    refine (upholds_evaluate m hms.1).bind fun kept₁ result hkept₁ hresult => ?_
    obtain ⟨m', result⟩ := result
    have hrest : ∀ e ∈ rest, e.2.Held gone kept₁ := allHeld_iff.1 (AllHeld.mono hkept₁ hms.2)
    cases result with
    | error e =>
      exact .pure (K := .pair (.list (.dependency gone)) (.except .loadError (.any Unit)))
        (a := ((specifier, m') :: rest, .error e)) ⟨List.forall_mem_cons.2 ⟨hresult.1, hrest⟩, hresult.2⟩
    | ok exports =>
      refine (upholds_evaluateAll rest (AllHeld.mono hkept₁ hms.2)).bind fun kept₂ result hkept₂ hresult' => ?_
      exact .pure (K := .pair (.list (.dependency gone)) (.except .loadError (.any Unit)))
        (a := ((specifier, m') :: result.1, result.2))
        ⟨List.forall_mem_cons.2 ⟨hresult.1.mono hkept₂, hresult'.1⟩, hresult'.2⟩

end

end Module

/-! ### Importing -/

namespace Loader

variable {l : Loader}

theorem keeps_step {α : Type} {K : Grip α} {x : StateM Session (Module × Except LoadError α)}
    (h : Upholds gone (.outcome gone K) kept x) : Keeps gone (.pair (.module gone) K) kept (step x) := by
  refine (Keeps.modifyGet h).bind fun _ result _ hresult => ?_
  obtain ⟨m, e | a⟩ := result
  · exact .throw (e := e) hresult.2
  · exact .pure (a := (m, a)) hresult

/-- **Importing** keeps what is held. -/
theorem keeps_load (hl : l.builtins.Keeps gone kept) (specifier : String) :
    Keeps gone (.pair (.any Url) .exports) kept (l.load specifier) := by
  refine Load.keeps_bind_get fun s _ hsub => ⟨rfl, ?_⟩
  cases l.config.root s.scripts.host with
  | error e => exact .throw (e := LoadError.config e) trivial
  | ok root =>
    dsimp only
    cases (l.resolver root).resolve specifier none with
    | error e => exact .throw (e := LoadError.resolve e) trivial
    | ok url =>
      refine (Load.keeps_log _).bind fun kept₁ _ hkept₁ _ => ?_
      refine (Load.keeps_script Run.keeps_newContext).bind fun kept₂ context hkept₂ hcontext => ?_
      have hl₂ : l.builtins.Keeps gone kept₂ := hl.mono (hsub.trans (hkept₁.trans hkept₂))
      refine (Builder.keeps_build hl₂ url hcontext).bind fun kept₃ m hkept₃ hm => ?_
      refine (keeps_step (Linker.upholds_link (hl₂.mono hkept₃) hm)).bind fun _ linked _ hlinked => ?_
      refine (keeps_step (Module.upholds_evaluate linked.1 hlinked.1)).bind fun _ evaluated _ hevaluated => ?_
      exact (Load.keeps_log _).bind fun _ _ hkept _ =>
        .pure (a := (url, evaluated.2)) ⟨trivial, Grip.exports.mono hkept hevaluated.2⟩

end Loader
end ScriptImport
