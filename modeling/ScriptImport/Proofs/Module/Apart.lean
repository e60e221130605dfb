/-
# Loading behind what was loaded before

A session can be behind another one: its store is behind that of the other one, and what it records comes after
what that one has recorded (`Session.behind`).  Modules are behind it with their contexts and exports.

Building, linking and evaluating modules is apart from itself behind another session, if the builtin modules make
their exports anew: linking only passes the context on (`Linker.parallel_link`), and what evaluating does to
the store, scripts do (`Module.parallel_evaluate`).
-/

import ScriptImport.Module.Link
import ScriptImport.Proofs.Fetch.Record
import ScriptImport.Proofs.Module.Evaluate
import ScriptImport.Proofs.Script.ApartRuns

namespace ScriptImport

open Script

/-! ### Sessions, errors and modules behind others -/

variable {k d d' : Extent}

/-- Exports behind what fills `k`. -/
def Script.Namespace.behind (k : Extent) (n : Namespace) : Namespace :=
  ⟨k.identities + n.identity, n.url, Dict.mapValues (Value.behind k) n.entries⟩

/-- An error behind what fills `k`. -/
def LoadError.behind (k : Extent) : LoadError → LoadError
  | eval e => eval (e.behind k)
  | e => e

/-- The session `s` behind the session `old`. -/
def Session.behind (old s : Session) : Session := ⟨old.web.behind s.web, old.scripts.behind s.scripts⟩

namespace Module

mutual

/-- A module behind what fills `k`. -/
def behind (k : Extent) : Module → Module
  | node url context kind state exports dependencies =>
    node url (k.objects + context) kind state (exports.map (Namespace.behind k)) (behindAll k dependencies)

/-- Modules behind what fills `k`. -/
def behindAll (k : Extent) : List (String × Module) → List (String × Module)
  | [] => []
  | (specifier, m) :: rest => (specifier, m.behind k) :: behindAll k rest

end

theorem behindAll_eq (k : Extent) (dependencies : List (String × Module)) :
    behindAll k dependencies = Dict.mapValues (behind k) dependencies := by
  induction dependencies with
  | nil => rfl
  | cons e rest ih => exact congrArg ((e.1, e.2.behind k) :: ·) ih

end Module

/-- A builtin module makes its exports anew. -/
def ModuleKind.Anew : ModuleKind → Prop
  | source _ => True
  | synthetic b _ => b.Anew

namespace Kind

/-- Properties of an object, or exports. -/
abbrev properties : Kind (Dict Value) :=
  ⟨fun k => Dict.mapValues (Value.behind k), fun d es => ∀ e ∈ es, e.2.Within d,
    fun h hes e he => (hes e he).mono h⟩

abbrev exports : Kind Namespace :=
  ⟨Namespace.behind, fun d n => ∀ e ∈ n.entries, e.2.Within d, fun h hn e he => (hn e he).mono h⟩

abbrev loadError : Kind LoadError := ⟨LoadError.behind, fun _ _ => True, fun _ _ => trivial⟩

end Kind

namespace Module

mutual

/-- What a module and the modules below it name is within `d`, and they make the exports of builtin modules
anew. -/
def Within (d : Extent) : Module → Prop
  | node _ context kind _ exports dependencies =>
    context < d.objects ∧ kind.Anew ∧ Kind.exports.option.Within d exports ∧ AllWithin d dependencies

/-- What modules name is within `d`. -/
def AllWithin (d : Extent) : List (String × Module) → Prop
  | [] => True
  | (_, m) :: rest => m.Within d ∧ AllWithin d rest

end

mutual

theorem Within.mono (h : d ≤ d') : ∀ {m : Module}, m.Within d → m.Within d'
  | node _ _ _ _ _ _, hm =>
    ⟨hm.1.trans_le h.2.1, hm.2.1, Kind.exports.option.mono h hm.2.2.1, AllWithin.mono h hm.2.2.2⟩

theorem AllWithin.mono (h : d ≤ d') : ∀ {ms : List (String × Module)}, AllWithin d ms → AllWithin d' ms
  | [], _ => trivial
  | _ :: _, hms => ⟨hms.1.mono h, AllWithin.mono h hms.2⟩

end

theorem allWithin_iff {ms : List (String × Module)} : AllWithin d ms ↔ ∀ e ∈ ms, e.2.Within d := by
  induction ms with
  | nil => exact iff_of_true trivial nofun
  | cons e rest ih => rw [List.forall_mem_cons, ← ih]; rfl

end Module

abbrev Kind.module : Kind Module := ⟨Module.behind, Module.Within, fun h hm => hm.mono h⟩

instance : World Session LoadError :=
  ⟨fun s => s.scripts.extent, fun s => s.scripts.Closed, Session.behind, .loadError⟩

theorem Session.extent_eq (s : Session) : World.extent s = s.scripts.extent := rfl

/-! ### Steps of loading -/

namespace Load

variable {α : Type} {old : Session} {K : Kind α}

theorem apart_bind_get {f g : Session → Load α}
    (h : ∀ s : Session, s.scripts.Closed → d ≤ s.scripts.extent →
      Apart old K s.scripts.extent (f s) (g (old.behind s))) :
    Apart old K d (get >>= f) (get >>= g) := .bind_get h

theorem apart_onWeb {act : StateM Web α} (h : Web.Unread act) :
    Apart old (.same α) d (onWeb act) (onWeb act) := by
  intro s hs hd
  refine ⟨?_, hs, le_rfl, trivial⟩
  change (Except.ok (act (old.web.behind s.web)).1,
    ({ old.behind s with web := (act (old.web.behind s.web)).2 } : Session)) = _
  rw [h old.web s.web]
  rfl

theorem apart_log (e : Event) : Apart old (.same Unit) d (log e) (log e) := apart_onWeb (Web.unread_log e)

/-- An event that says how much there is of exports. -/
theorem apart_log_length (e : Nat → Event) (n : Namespace) :
    Apart old (.same Unit) d (log (e n.entries.length))
      (log (e (n.behind old.scripts.extent).entries.length)) := by
  rw [Namespace.behind, Dict.mapValues, List.length_map]
  exact apart_log _

/-- Running a script does the same if the script does. -/
theorem apart_script {x y : Run α} (h : Apart old.scripts K d x y) :
    Apart old K d (script x) (script y) := by
  unfold Apart
  rw [funext (run_script x), funext (run_script y)]
  intro s hs hd
  obtain ⟨hy, hclosed, hle, hwithin⟩ := h s.scripts hs hd
  have hmoved : y.run (World.behind old s).scripts = _ := hy
  refine ⟨?_, hclosed, hle, ?_⟩
  · dsimp only
    rw [hmoved]
    cases (x.run s.scripts).1 <;> rfl
  · dsimp only
    cases hresult : (x.run s.scripts).1 with
    | ok a =>
      rw [hresult] at hwithin
      exact hwithin
    | error e => trivial

theorem apart_ofState {r : Except StateError Module} (hr : ∀ m, r = .ok m → m.Within d) :
    Apart old .module d (ofState r) (ofState (r.map (Module.behind old.scripts.extent))) := by
  cases r with
  | ok m => exact .pure (hr m rfl)
  | error e => exact .throw (e := LoadError.state e) trivial

end Load

/-! ### Building and linking -/

namespace Module

variable (k) (m : Module)

@[simp] theorem url_behind : (m.behind k).url = m.url := by cases m; rfl

@[simp] theorem state_behind : (m.behind k).state = m.state := by cases m; rfl

@[simp] theorem kind_behind : (m.behind k).kind = m.kind := by cases m; rfl

@[simp] theorem context_behind : (m.behind k).context = k.objects + m.context := by cases m; rfl

@[simp] theorem exports_behind : (m.behind k).exports = m.exports.map (Namespace.behind k) := by cases m; rfl

@[simp] theorem requests_behind : (m.behind k).requests = m.requests := by cases m; rfl

@[simp] theorem exportNames_behind : (m.behind k).exportNames = m.exportNames := by cases m; rfl

theorem withState_behind (state : ModuleState) : (m.behind k).withState state = (m.withState state).behind k := by
  cases m; rfl

theorem withDependencies_behind (dependencies : List (String × Module)) :
    (m.behind k).withDependencies (dependencies.map fun d => (d.1, d.2.behind k))
      = (m.withDependencies dependencies).behind k := by
  cases m
  exact congrArg (node _ _ _ _ _) (behindAll_eq k dependencies).symm

theorem withExports_behind (exports : Namespace) :
    (m.behind k).withExports (exports.behind k) = (m.withExports exports).behind k := by
  cases m; rfl

theorem fail_behind : (m.behind k).fail = m.fail.behind k := by
  rw [fail, fail, state_behind, withState_behind]
  split <;> rfl

theorem transition_behind (next : ModuleState) :
    (m.behind k).transition next = (m.transition next).map (behind k) := by
  rw [transition, transition, state_behind, url_behind, withState_behind]
  split <;> rfl

theorem dependency?_behind (specifier : String) :
    (m.behind k).dependency? specifier = (m.dependency? specifier).map (behind k) := by
  obtain ⟨url, context, kind, state, exports, dependencies⟩ := m
  change Dict.get? (behindAll k dependencies) specifier = (Dict.get? dependencies specifier).map (behind k)
  rw [behindAll_eq, Dict.get?_mapValues]

variable {k m}

theorem Within.context (h : m.Within d) : m.context < d.objects := by
  cases m; exact h.1

theorem Within.kind (h : m.Within d) : m.kind.Anew := by
  cases m; exact h.2.1

theorem Within.exports (h : m.Within d) : ∀ n ∈ m.exports, ∀ e ∈ n.entries, e.2.Within d := by
  cases m; exact h.2.2.1

theorem Within.dependencies (h : m.Within d) : ∀ e ∈ m.dependencies, e.2.Within d := by
  cases m; exact allWithin_iff.1 h.2.2.2

theorem Within.withState (h : m.Within d) (state : ModuleState) : (m.withState state).Within d := by
  cases m; exact h

theorem Within.withDependencies (h : m.Within d) {dependencies : List (String × Module)}
    (hall : ∀ e ∈ dependencies, e.2.Within d) : (m.withDependencies dependencies).Within d := by
  cases m; exact ⟨h.1, h.2.1, h.2.2.1, allWithin_iff.2 hall⟩

theorem Within.withExports (h : m.Within d) {exports : Namespace} (hall : ∀ e ∈ exports.entries, e.2.Within d) :
    (m.withExports exports).Within d := by
  cases m; exact ⟨h.1, h.2.1, fun n hn => Option.some.inj hn ▸ hall, h.2.2.2⟩

theorem Within.fail (h : m.Within d) : m.fail.Within d := by
  unfold Module.fail
  split
  · exact h
  · exact h.withState .failed

theorem Within.transition (h : m.Within d) {next : ModuleState} {m' : Module}
    (hm : m.transition next = .ok m') : m'.Within d := by
  unfold Module.transition at hm
  split at hm
  · exact Except.ok.inj hm ▸ h.withState next
  · cases hm

end Module

abbrev Kind.dependency : Kind (String × Module) :=
  ⟨fun k e => (e.1, e.2.behind k), fun d e => e.2.Within d, fun h he => he.mono h⟩

/-- A module and what came of it. -/
abbrev Kind.outcome {α : Type} (K : Kind α) : Kind (Module × Except LoadError α) :=
  .pair .module (.except .loadError K)

variable {old : Session}

namespace Builder

variable {b : Builder} {context : ObjectId}

/-- **Building** does the same behind another session. -/
theorem apart_build (hb : b.builtins.Anew) (url : Url) (hc : context < d.objects) :
    Apart old .module d (b.build url context) (b.build url (old.scripts.extent.objects + context)) := by
  have hnew {d : Extent} {kind : ModuleKind} (hc : context < d.objects) (hkind : kind.Anew) :
      (Module.new url kind context).Within d := ⟨hc, hkind, nofun, trivial⟩
  unfold build
  split
  · refine (Load.apart_onWeb (b.fetcher.unread_fetch url)).bind fun d₁ result hd₁ _ => ?_
    cases result with
    | error e => exact .throw (e := LoadError.fetch e) trivial
    | ok fetched =>
      dsimp only
      cases Syntax.parse fetched.body with
      | error e => exact .throw (e := LoadError.parse url e) trivial
      | ok p =>
        exact (Load.apart_log _).bind fun d₂ _ hd₂ _ =>
          .pure (a := Module.ofProgram url p context) (hnew (hc.trans_le (hd₁.trans hd₂).2.1) trivial)
  · split
    · unfold buildBuiltin
      cases hbuiltin : b.builtins.get? (builtinName url) with
      | none => exact .throw (e := LoadError.unknownBuiltin _) trivial
      | some builtin =>
        have hanew := hb hbuiltin
        refine Load.apart_bind_get fun s _ hd => ?_
        have hsame : Module.ofBuiltin url builtin (old.behind s).scripts (old.scripts.extent.objects + context)
            = (Module.ofBuiltin url builtin s.scripts context).behind old.scripts.extent := by
          rw [Module.ofBuiltin, hanew.exportNames _ s.scripts]
          rfl
        rw [hsame]
        dsimp only
        rw [Module.exportNames_behind]
        exact (Load.apart_log _).bind fun d₂ _ hd₂ _ => .pure (hnew (hc.trans_le (hd.trans hd₂).2.1) hanew)
    · exact .throw (e := LoadError.resolve (.scheme url)) trivial

end Builder

namespace Linker

variable {l : Linker} {m : Module}

theorem apart_dependency (hl : l.builder.builtins.Anew) {link : Module → Load Module}
    (hlink : ∀ {d : Extent} {m : Module}, m.Within d →
      Apart old .module d (link m) (link (m.behind old.scripts.extent)))
    (hm : m.Within d) (above : List Url) (specifier : String) :
    Apart old .module d (l.dependency link m above specifier)
      (l.dependency link (m.behind old.scripts.extent) above specifier) := by
  unfold dependency
  rw [Module.url_behind, Module.context_behind]
  cases l.resolver.resolve specifier (some m.url) with
  | error e => exact .throw (e := LoadError.resolve e) trivial
  | ok url =>
    dsimp only
    split
    · exact .throw (e := LoadError.circular _) trivial
    · refine (Load.apart_log _).bind fun d₁ _ hd₁ _ => ?_
      exact (Builder.apart_build hl url (hm.context.trans_le hd₁.2.1)).bind fun _ _ _ hbuilt => hlink hbuilt

theorem apart_linkBelow (hl : l.builder.builtins.Anew) (depth : Nat) (above : List Url) {m : Module} (hm : m.Within d) :
    Apart old .module d (l.linkBelow depth above m)
      (l.linkBelow depth above (m.behind old.scripts.extent)) := by
  induction depth generalizing above m d with
  | zero =>
    rw [linkBelow, linkBelow, Module.url_behind]
    exact .throw (e := LoadError.endless _) trivial
  | succ depth ih =>
    rw [linkBelow, linkBelow, Module.transition_behind]
    refine (Load.apart_ofState fun _ => hm.transition).bind fun d₁ m _ hm => ?_
    dsimp only
    rw [Module.url_behind, Module.requests_behind]
    have hlink {d : Extent} {m' : Module} (hm' : m'.Within d) :
        Apart old .module d (l.linkBelow depth (above ++ [m.url]) m')
          (l.linkBelow depth (above ++ [m.url]) (m'.behind old.scripts.extent)) := ih _ hm'
    have hdependencies : Apart old Kind.dependency.list d₁
        (m.requests.mapM fun specifier => do
          return (specifier, ← l.dependency (l.linkBelow depth (above ++ [m.url])) m (above ++ [m.url]) specifier))
        (m.requests.mapM fun specifier => do
          return (specifier, ← l.dependency (l.linkBelow depth (above ++ [m.url])) (m.behind old.scripts.extent)
            (above ++ [m.url]) specifier)) :=
      .mapM fun specifier _ d₂ hd₂ =>
        (apart_dependency hl hlink (hm.mono hd₂) _ specifier).bind fun _ m' _ hm' =>
          .pure (a := (specifier, m')) hm'
    refine hdependencies.bind fun d₂ ms hd₂ hms => ?_
    rw [Module.withDependencies_behind, Module.transition_behind]
    exact Load.apart_ofState fun _ => ((hm.mono hd₂).withDependencies hms).transition

/-- **Linking** does the same behind another session. -/
theorem parallel_link (hl : l.builder.builtins.Anew) (hm : m.Within d) :
    Parallel old (.outcome (.same Unit)) d (l.link m)
      (l.link (m.behind old.scripts.extent)) := by
  unfold link
  rw [Module.transition_behind]
  cases htransition : m.transition .linking with
  | error e => exact .pure (K := .outcome (.same Unit)) (a := (m, .error (.state e))) ⟨hm, trivial⟩
  | ok linking =>
    have hlinking := hm.transition htransition
    refine Parallel.bind (apart_linkBelow hl l.depth [] hm) fun d₁ result hd₁ hresult => ?_
    cases result with
    | ok linked => exact .pure (K := .outcome (.same Unit)) (a := (linked, .ok ())) ⟨hresult, trivial⟩
    | error e =>
      -- what has been linked below it is lost with the error
      dsimp only
      rw [Module.fail_behind]
      exact .pure (K := .outcome (.same Unit)) (a := (linking.fail, .error e)) ⟨(hlinking.mono hd₁).fail, trivial⟩

end Linker

/-! ### Evaluating -/

namespace Module

open Syntax

variable {m : Module} {scope : Scope}

theorem apart_importedFrom (hm : m.Within d) (specifier : String) :
    Apart old .exports d (m.importedFrom specifier) ((m.behind old.scripts.extent).importedFrom specifier) := by
  unfold importedFrom
  rw [dependency?_behind, url_behind, state_behind]
  cases hdependency : m.dependency? specifier with
  | none => exact .throw (e := LoadError.state _) trivial
  | some dependency =>
    dsimp only [Option.map_some]
    rw [exports_behind, url_behind, state_behind]
    cases hexports : dependency.exports with
    | none => exact .throw (e := LoadError.state _) trivial
    | some exports =>
      have hwithin : dependency.Within d := hm.dependencies _ (Dict.mem_of_get? hdependency)
      exact .pure (hwithin.exports exports hexports)

theorem apart_exported {exports : Namespace} (hexports : Kind.exports.Within d exports) (specifier name : String) :
    Apart old .value d (exported exports specifier name)
      (exported (exports.behind old.scripts.extent) specifier name) := by
  unfold exported
  dsimp only [Namespace.behind]
  rw [Dict.get?_mapValues]
  cases hget : Dict.get? exports.entries name with
  | none => exact .throw (e := LoadError.missingExport specifier name) trivial
  | some v => exact .pure (hexports _ (Dict.mem_of_get? hget))

theorem apart_declare (scope : Scope) (name : String) {v : Value} (hv : v.Within d) :
    Apart old (.same Unit) d (Load.script (Run.declare scope name v false))
      (Load.script (Run.declare (Scope.behind old.scripts.extent scope) name (v.behind old.scripts.extent) false)) :=
  Load.apart_script (Run.apart_declare scope name hv false)

theorem apart_bindImport (hm : m.Within d) (scope : Scope) (i : Import) :
    Apart old (.same Unit) d (m.bindImport scope i)
      ((m.behind old.scripts.extent).bindImport (Scope.behind old.scripts.extent scope) i) := by
  obtain ⟨source, defaultName, names⟩ := i
  refine (apart_importedFrom hm source).bind fun d₁ exports hd₁ hexports => ?_
  have heverything {d : Extent} (hexports : Kind.exports.Within d exports) (name : String) :
      Apart old (.same Unit) d (Load.script (Run.declare scope name exports.value false))
        (Load.script (Run.declare (Scope.behind old.scripts.extent scope) name
          (exports.behind old.scripts.extent).value false)) := by
    have hmoved : (exports.behind old.scripts.extent).value = exports.value.behind old.scripts.extent :=
      congrArg (Value.exports _ _) (Value.behindAll_eq ..).symm
    rw [hmoved]
    exact apart_declare scope name (Value.allWithin_iff.2 hexports)
  have hnames {d : Extent} (hexports : Kind.exports.Within d exports) (names : List ImportName) :
      Apart old (.same Unit) d
        (names.forM fun n => do
          let v ← exported exports source n.imported
          Load.script (Run.declare scope n.localName v false))
        (names.forM fun n => do
          let v ← exported (exports.behind old.scripts.extent) source n.imported
          Load.script (Run.declare (Scope.behind old.scripts.extent scope) n.localName v false)) :=
    .forM fun n _ _ hd => (apart_exported (Kind.exports.mono hd hexports) source n.imported).bind
      fun _ _ _ hv => apart_declare scope n.localName hv
  cases defaultName with
  | none =>
    cases names with
    | everything name => exact heverything hexports name
    | some names => exact hnames hexports names
  | some name =>
    refine (apart_exported hexports source "default").bind fun d₂ v hd₂ hv => ?_
    refine (apart_declare scope name hv).bind fun d₃ _ hd₃ _ => ?_
    have hexports := Kind.exports.mono (hd₂.trans hd₃) hexports
    cases names with
    | everything name => exact heverything hexports name
    | some names => exact hnames hexports names

theorem apart_bindImports (hm : m.Within d) (scope : Scope) (p : Program) :
    Apart old (.same Unit) d (m.bindImports scope p)
      ((m.behind old.scripts.extent).bindImports (Scope.behind old.scripts.extent scope) p) := by
  refine .forM fun item _ d' hd' => ?_
  cases item with
  | importing i => exact apart_bindImport (hm.mono hd') scope i
  | _ => exact .pure trivial

theorem apart_localValue (scope : Scope) (name : String) :
    Apart old .value d (localValue scope name) (localValue (Scope.behind old.scripts.extent scope) name) := by
  refine Load.apart_bind_get fun s hs _ => ?_
  have hmoved : (old.behind s).scripts.lookup? name (Scope.behind old.scripts.extent scope)
      = (s.scripts.lookup? name scope).map (Value.behind old.scripts.extent) := Store.lookup?_behind ..
  rw [hmoved]
  cases hlookup : s.scripts.lookup? name scope with
  | none => exact .throw (e := LoadError.eval (.unbound name)) trivial
  | some v => exact .pure (Store.lookup?_within hs hlookup)

/-- An export more. -/
theorem within_insert {entries : Dict Value} (hentries : Kind.properties.Within d entries) (name : String) {v : Value}
    (hv : v.Within d) : Kind.properties.Within d (Dict.insert entries name v) := fun _ he =>
  (Dict.eq_or_mem_of_mem_insert he).elim (fun heq => heq ▸ hv) (hentries _)

/-- An export whose value is made by `x`. -/
theorem apart_insert {entries : Dict Value} (hentries : Kind.properties.Within d entries) (name : String)
    {x y : Load Value} (h : Apart old .value d x y) :
    Apart old .properties d (do return Dict.insert entries name (← x))
      (do return Dict.insert (Kind.properties.behind old.scripts.extent entries) name (← y)) :=
  h.bind fun _ _ hd hv => .pure_of_eq (within_insert (Kind.properties.mono hd hentries) name hv)
    (Dict.mapValues_insert ..).symm

theorem apart_collect (hm : m.Within d) (scope : Scope) {entries : Dict Value}
    (hentries : Kind.properties.Within d entries) (item : Item) :
    Apart old .properties d (m.collect scope entries item)
      ((m.behind old.scripts.extent).collect (Scope.behind old.scripts.extent scope)
        (Kind.properties.behind old.scripts.extent entries) item) := by
  cases item with
  | exporting e =>
    cases e with
    | defaultValue e => exact apart_insert hentries "default" (apart_localValue scope defaultBinding)
    | defaultFunction name params body => exact apart_insert hentries "default" (apart_localValue scope defaultBinding)
    | declaration declaration => exact apart_insert hentries declaration.name (apart_localValue scope declaration.name)
    | names names =>
      exact .foldlM (fun n _ _ _ _ hes => apart_insert hes n.exported (apart_localValue scope n.localName)) hentries
    | namesFrom names source =>
      refine (apart_importedFrom hm source).bind fun d₁ exports hd₁ hexports => ?_
      exact .foldlM (fun n _ _ _ hd₂ hes => apart_insert hes n.exported
        (apart_exported (Kind.exports.mono hd₂ hexports) source n.localName)) (Kind.properties.mono hd₁ hentries)
    | allFrom source => exact .pure hentries
  | _ => exact .pure hentries

theorem foldl_addMissing_behind (k : Extent) (es entries : Dict Value) :
    (Dict.mapValues (Value.behind k) es).foldl addMissing (Dict.mapValues (Value.behind k) entries)
      = Dict.mapValues (Value.behind k) (es.foldl addMissing entries) := by
  induction es generalizing entries with
  | nil => rfl
  | cons e es ih =>
    have hfirst : addMissing (Dict.mapValues (Value.behind k) entries) (e.1, e.2.behind k)
        = Dict.mapValues (Value.behind k) (addMissing entries e) := by
      unfold addMissing
      rw [Dict.contains_mapValues]
      split
      · rfl
      · exact (Dict.mapValues_insert ..).symm
    exact (congrArg (List.foldl addMissing · (Dict.mapValues (Value.behind k) es)) hfirst).trans (ih _)

theorem within_foldl_addMissing {es entries : Dict Value} (hes : Kind.properties.Within d es)
    (hentries : Kind.properties.Within d entries) :
    Kind.properties.Within d (es.foldl addMissing entries) := by
  induction es generalizing entries with
  | nil => exact hentries
  | cons e es ih =>
    obtain ⟨he, hes⟩ := List.forall_mem_cons.1 hes
    refine ih hes ?_
    unfold addMissing
    split
    · exact hentries
    · exact within_insert hentries e.1 he

theorem apart_passOn (hm : m.Within d) {entries : Dict Value} (hentries : Kind.properties.Within d entries)
    (item : Item) :
    Apart old .properties d (m.passOn entries item)
      ((m.behind old.scripts.extent).passOn (Kind.properties.behind old.scripts.extent entries) item) := by
  cases item with
  | exporting e =>
    cases e with
    | allFrom source =>
      exact (apart_importedFrom hm source).bind fun _ exports hd hexports =>
        .pure_of_eq (within_foldl_addMissing hexports (Kind.properties.mono hd hentries))
          (foldl_addMissing_behind ..)
    | _ => exact .pure hentries
  | _ => exact .pure hentries

theorem apart_importScope (hm : m.Within d) (p : Program) :
    Apart old .scope d (m.importScope p) ((m.behind old.scripts.extent).importScope p) :=
  (Load.apart_script (Run.apart_inner [])).bind fun _ scope hd _ =>
    (apart_bindImports (hm.mono hd) scope p).bind fun _ _ _ _ => .pure trivial

theorem apart_runToEnd (hm : m.Within d) (p : Program) :
    Apart old .scope d (m.runToEnd p) ((m.behind old.scripts.extent).runToEnd p) := by
  rw [runToEnd_eq, runToEnd_eq, context_behind]
  exact (apart_importScope hm p).bind fun _ scope hd _ =>
    (Load.apart_script (Run.apart_runModule p scope (hm.context.trans_le hd.2.1))).bind
      fun _ _ _ _ => .pure trivial

theorem apart_runProgram (hm : m.Within d) (p : Program) :
    Apart old .properties d (m.runProgram p) ((m.behind old.scripts.extent).runProgram p) := by
  refine (apart_runToEnd hm p).bind fun d₁ scope hd₁ _ => ?_
  have hcollected : Apart old .properties d₁ (p.body.foldlM (m.collect scope) [])
      (p.body.foldlM ((m.behind old.scripts.extent).collect (Scope.behind old.scripts.extent scope)) []) :=
    .foldlM (fun item _ d₂ _ hd₂ hes => apart_collect (hm.mono (hd₁.trans hd₂)) scope hes item)
      fun _ h => absurd h List.not_mem_nil
  exact hcollected.bind fun d₂ entries hd₂ hentries =>
    .foldlM (fun item _ d₃ _ hd₃ hes => apart_passOn (hm.mono (hd₁.trans (hd₂.trans hd₃))) hes item) hentries

theorem apart_runBody (hm : m.Within d) :
    Apart old .properties d m.runBody (m.behind old.scripts.extent).runBody := by
  rw [runBody_eq, runBody_eq, kind_behind]
  have hanew := hm.kind
  generalize m.kind = kind at hanew
  cases kind with
  | source p => exact apart_runProgram hm p
  | synthetic b names =>
    refine .foldlM (b := []) (fun name _ d₁ entries hd₁ hes => ?_) fun _ h => absurd h List.not_mem_nil
    refine (Load.apart_script (Builtin.Anew.value? hanew old.scripts d₁ name)).bind fun d₂ v hd₂ hv => ?_
    have hinsert {w : Value} (hw : w.Within d₂) : Apart old .properties d₂ (pure (Dict.insert entries name w))
        (pure (Dict.insert (Kind.properties.behind old.scripts.extent entries) name
          (w.behind old.scripts.extent))) :=
      .pure_of_eq (within_insert (Kind.properties.mono hd₂ hes) name hw) (Dict.mapValues_insert ..).symm
    cases v with
    | none => exact hinsert (w := .undefined) trivial
    | some v => exact hinsert (hv v rfl)

theorem apart_runExports (hm : m.Within d) :
    Apart old .exports d m.runExports (m.behind old.scripts.extent).runExports := by
  refine (apart_runBody hm).bind fun d₁ entries hd₁ hentries => ?_
  refine (Load.apart_script Run.apart_identity).bind fun d₂ identity hd₂ _ => ?_
  rw [url_behind]
  exact .pure (a := Namespace.mk identity m.url.text entries) (Kind.properties.mono hd₂ hentries)

theorem parallel_finish (hm : m.Within d) :
    Parallel old (.outcome .exports) d m.finish (m.behind old.scripts.extent).finish := by
  refine Parallel.bind (apart_runExports hm) fun d₁ result hd₁ hresult => ?_
  cases result with
  | error e =>
    dsimp only
    rw [fail_behind]
    exact .pure (K := .outcome .exports) (a := (m.fail, .error e)) ⟨(hm.mono hd₁).fail, trivial⟩
  | ok exports =>
    have hm₁ := hm.mono hd₁
    dsimp only
    rw [url_behind, Session.extent_eq, withExports_behind, withState_behind]
    refine Parallel.bind (Load.apart_log_length (.evaluated m.url) exports) fun d₂ _ hd₂ _ => ?_
    exact .pure (K := .outcome .exports) (a := ((m.withExports exports).withState .evaluated, .ok exports))
      ⟨((hm₁.withExports hresult).withState _).mono hd₂, Kind.exports.mono hd₂ hresult⟩

mutual

/-- **Evaluating** does the same behind another session. -/
theorem parallel_evaluate : ∀ (m : Module) {d : Extent}, m.Within d →
    Parallel old (.outcome .exports) d m.evaluate (m.behind old.scripts.extent).evaluate
  | node url context kind state exports dependencies, d, hm => by
    rw [behind, evaluate_node_eq, evaluate_node_eq]
    dsimp only
    by_cases hstate : state ≠ .linked
    · rw [if_pos hstate, if_pos hstate]
      exact .pure (K := .outcome .exports)
        (a := (node url context kind state exports dependencies, .error (.state ⟨url, state, .evaluating⟩)))
        ⟨hm, trivial⟩
    · rw [if_neg hstate, if_neg hstate]
      have hm' : Within d ((node url context kind state exports dependencies).withState .evaluating) := hm
      refine (parallel_evaluateAll dependencies hm.2.2.2).bind fun d₁ result hd₁ hresult => ?_
      obtain ⟨dependencies', result⟩ := result
      have hall := (hm'.mono hd₁).withDependencies hresult.1
      have hmoved : ((node url (old.scripts.extent.objects + context) kind state
          (exports.map (Namespace.behind old.scripts.extent)) (behindAll old.scripts.extent dependencies)).withState
            .evaluating).withDependencies (dependencies'.map fun d => (d.1, d.2.behind old.scripts.extent))
          = (((node url context kind state exports dependencies).withState .evaluating).withDependencies
            dependencies').behind old.scripts.extent :=
        withDependencies_behind _ (withState .evaluating (node url context kind state exports dependencies)) _
      cases result with
      | error e =>
        dsimp only
        rw [Session.extent_eq, hmoved, fail_behind]
        exact .pure (K := .outcome .exports) (a := (_, .error e)) ⟨hall.fail, trivial⟩
      | ok _ =>
        dsimp only
        rw [Session.extent_eq, hmoved]
        exact parallel_finish hall

/-- Evaluating one module after the other does the same behind another session. -/
theorem parallel_evaluateAll : ∀ (ms : List (String × Module)) {d : Extent}, AllWithin d ms →
    Parallel old (.pair (.list .dependency) (.except .loadError (.same Unit))) d (evaluateAll ms)
      (evaluateAll (behindAll old.scripts.extent ms))
  | [], _, _ => by
    rw [behindAll, evaluateAll_nil_eq]
    exact .pure (K := .pair (.list .dependency) (.except .loadError (.same Unit))) (a := ([], .ok ()))
      ⟨nofun, trivial⟩
  | (specifier, m) :: rest, d, hms => by
    rw [behindAll, evaluateAll_cons_eq, evaluateAll_cons_eq]
    refine (parallel_evaluate m hms.1).bind fun d₁ result hd₁ hresult => ?_
    obtain ⟨m', result⟩ := result
    have hrest : ∀ e ∈ rest, e.2.Within d₁ := allWithin_iff.1 (AllWithin.mono hd₁ hms.2)
    cases result with
    | error e =>
      dsimp only
      rw [behindAll_eq]
      exact .pure (K := .pair (.list .dependency) (.except .loadError (.same Unit)))
        (a := ((specifier, m') :: rest, .error e)) ⟨List.forall_mem_cons.2 ⟨hresult.1, hrest⟩, trivial⟩
    | ok exports =>
      refine (parallel_evaluateAll rest (AllWithin.mono hd₁ hms.2)).bind fun d₂ result hd₂ hresult' => ?_
      exact .pure (K := .pair (.list .dependency) (.except .loadError (.same Unit)))
        (a := ((specifier, m') :: result.1, result.2))
        ⟨List.forall_mem_cons.2 ⟨hresult.1.mono hd₂, hresult'.1⟩, hresult'.2⟩

end

end Module
end ScriptImport
