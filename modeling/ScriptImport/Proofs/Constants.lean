/-
# Constants last

The program of a module is run in a new scope, in which its imports are bound first, and values are called, as often as
one likes.  A name that has been bound as a constant, by a declaration, an import or as the name of a function
expression, cannot be assigned to and keeps its value, in the rest of the run and in all later ones
(`Session.constants_last`), if no code declares it again in the same scope.  Nothing else in this holds it back: the
second of two declarations wins (`Session.constant_redeclared`).
-/

import ScriptImport.Proofs.Module.Keeps
import ScriptImport.Proofs.Script.ConstantsRuns

namespace ScriptImport

open Script Syntax

variable {name : String} {f : FrameId} {s t : Store}

namespace Script

/-! ### What is found in lasting constants -/

theorem Run.assign_constant {inner outer : Scope} (hinner : ∀ g ∈ inner, Dict.get? (s.frame g) name = none) {v : Value}
    (hv : s.constant? f name = some v) (w : Value) :
    (Run.assign name w (inner ++ f :: outer)).run s = (.error (.constant name), s) := by
  induction inner with
  | nil =>
    rw [List.nil_append, Run.assign, Run.run_get_bind, Store.constant?_eq_some.1 hv]
    rfl
  | cons g inner ih =>
    obtain ⟨hg, hinner⟩ := List.forall_mem_cons.1 hinner
    rw [List.cons_append, Run.assign, Run.run_get_bind, hg]
    exact ih hinner

theorem Store.Sound.lookup?_constant (hs : s.WellHeld) {inner : Scope}
    (hinner : ∀ g ∈ inner, Dict.get? (s.frame g) name = none) {v : Value} (hv : s.constant? f name = some v)
    (outer : Scope) : s.lookup? name (inner ++ f :: outer) = some (Store.loadedWhile (fun _ => true) v) := by
  have hb := Store.constant?_eq_some.1 hv
  rw [Store.lookup?_append_of_unbound hinner, Store.lookup?, hb]
  exact congrArg some (Store.loadedWhile_eq rfl (hs.held.frames f rfl _ (Dict.mem_of_get? hb))).symm

/-- Constants that are bound in one store have the same values in a later one, in all scopes in which the name is found
in that frame, and they cannot be assigned to. -/
def Store.KeepsConstants (name : String) (earlier later : Store) : Prop :=
  ∀ {f : FrameId} {v : Value}, earlier.constant? f name = some v → ∀ {inner outer : Scope},
    (∀ g ∈ inner, Dict.get? (later.frame g) name = none) →
      later.lookup? name (inner ++ f :: outer) = earlier.lookup? name (f :: outer) ∧
        ∀ (call : Value → List Value → Run Value) (context : ObjectId) (w : Value),
          (Run.assignTo call context (.name name) w (inner ++ f :: outer)).run later
            = (.error (.constant name), later)

theorem Store.ConstantsLast.keepsConstants (h : s.ConstantsLast name t) (hs : s.WellHeld) (ht : t.WellHeld) :
    s.KeepsConstants name t := by
  intro f v hv inner outer hinner
  refine ⟨?_, fun call context w => ?_⟩
  · have hnone : ∀ g ∈ ([] : Scope), Dict.get? (s.frame g) name = none := nofun
    exact (ht.lookup?_constant hinner (h f v hv) outer).trans (hs.lookup?_constant hnone hv outer).symm
  · simp only [Run.assignTo]
    change (Run.writeName context (inner ++ f :: outer) name w).run t = _
    rw [Run.writeName, Run.run_bind, Run.assign_constant hinner (h f v hv) w]

end Script

/-! ### Imports -/

instance : HasPast Session := ⟨Session.scripts, fun _ => []⟩

theorem eq_ok_of_mapError {ε ε' α : Type} {x : Except ε α} {g : ε → ε'} {a : α} (h : x.mapError g = .ok a) :
    x = .ok a := by
  cases x with
  | ok b => exact congrArg Except.ok (Except.ok.inj h)
  | error e => cases h

theorem Script.Conducts.script {α : Type} {A : α → Prop} {ds : List Declared} {x : Run α}
    (h : Conducts name f ds A x) : Conducts name f ds A (Load.script x) := by
  intro r hr hready
  obtain ⟨hdeclares, hfinal, hresult, hpast⟩ := h r.scripts hr hready
  rw [Load.run_script]
  exact ⟨hdeclares, hfinal, fun a ha => hresult a (eq_ok_of_mapError ha), hpast⟩

theorem Script.Opens.script {α : Type} {A : FrameId → α → Prop} {ds : List Declared} {x : Run α}
    (h : Opens name ds A x) : Opens name ds A (Load.script x) := by
  intro r hr
  obtain ⟨houtside, hfinal, hresult, hpast⟩ := h r.scripts hr
  rw [Load.run_script]
  exact ⟨houtside, hfinal, fun a ha => hresult a (eq_ok_of_mapError ha), hpast⟩

namespace Module

variable {m : Module} {outer : Scope}

/-- The functions in the exports of the modules below keep the name final. -/
def ImportsFinal (name : String) (m : Module) : Prop :=
  ∀ e ∈ m.dependencies, ∀ exports ∈ e.2.exports, ∀ entry ∈ exports.entries, entry.2.Final name

theorem conducts_importedFrom (hm : m.ImportsFinal name) (specifier : String) :
    Conducts name f [] (fun exports => ∀ e ∈ exports.entries, e.2.Final name) (m.importedFrom specifier) := by
  unfold importedFrom
  cases hdependency : m.dependency? specifier with
  | none => exact .throw (LoadError.state _)
  | some dependency =>
    dsimp only
    cases hexports : dependency.exports with
    | none => exact .throw (LoadError.state _)
    | some exports => exact .pure (hm _ (Dict.mem_of_get? hdependency) exports hexports)

theorem conducts_exported {exports : Namespace} (hexports : ∀ e ∈ exports.entries, e.2.Final name)
    (specifier key : String) : Conducts name f [] (Value.Final name) (exported exports specifier key) := by
  unfold exported
  cases hget : Dict.get? exports.entries key with
  | none => exact .throw (LoadError.missingExport specifier key)
  | some v => exact .pure (hexports _ (Dict.mem_of_get? hget))

theorem conducts_bindNames {exports : Namespace} (hexports : ∀ e ∈ exports.entries, e.2.Final name)
    (names : ImportNames) (specifier : String) :
    Conducts name f names.declares (fun _ => True) (match names with
      | .everything own => Load.script (Run.declare (f :: outer) own exports.value false)
      | .some names => names.forM fun n => do
        let v ← exported exports specifier n.imported
        Load.script (Run.declare (f :: outer) n.localName v false)) := by
  cases names with
  | everything own => exact (Run.conducts_declare own (Value.final_exports.2 hexports) false).script
  | some names =>
    induction names with
    | nil => exact .pure trivial
    | cons n rest ih =>
      have hfirst : Conducts name f [⟨n.localName, true⟩] (fun _ => True) (do
          let v ← exported exports specifier n.imported
          Load.script (Run.declare (f :: outer) n.localName v false)) :=
        (conducts_exported hexports specifier n.imported).bind fun _ hv =>
          (Run.conducts_declare n.localName hv false).script
      exact hfirst.bind fun _ _ => ih

/-- **An import** declares constants. -/
theorem conducts_bindImport (hm : m.ImportsFinal name) (i : Import) :
    Conducts name f i.declares (fun _ => True) (m.bindImport (f :: outer) i) := by
  obtain ⟨source, defaultName, names⟩ := i
  refine (conducts_importedFrom hm source).bind fun exports hexports => ?_
  cases defaultName with
  | none => exact conducts_bindNames hexports names source
  | some own =>
    exact (conducts_exported hexports source "default").bind fun v hv =>
      ((Run.conducts_declare own hv false).script).bind fun _ _ => conducts_bindNames hexports names source

theorem conducts_bindItem (hm : m.ImportsFinal name) (item : Item) :
    Conducts name f item.imports (fun _ => True) (match item with
      | .importing i => m.bindImport (f :: outer) i
      | _ => return ()) := by
  cases item with
  | importing i => exact conducts_bindImport hm i
  | _ => exact .pure trivial

theorem conducts_bindImports (hm : m.ImportsFinal name) (p : Program) :
    Conducts name f p.imports (fun _ => True) (m.bindImports (f :: outer) p) := by
  obtain ⟨items⟩ := p
  unfold bindImports Program.imports
  induction items with
  | nil => exact .pure trivial
  | cons item rest ih => exact (conducts_bindItem hm item).bind fun _ _ => ih

theorem opens_importScope (hm : m.ImportsFinal name) {p : Program} (hp : Syntax.Final name p.imports) :
    Opens name p.imports (fun f scope => scope = [f]) (m.importScope p) := by
  refine (Run.opens_inner []).script.bind hp fun g scope hscope => ?_
  subst hscope
  exact (conducts_bindImports hm p).andThen fun _ _ => .pure rfl

end Module

/-! ### Histories -/

namespace Session

/-- What is done with scripts. -/
inductive Act where
  /-- A program is run in a new scope, with imports from the modules below `m`. -/
  | run (m : Module) (p : Program)
  | call (callee : Value) (args : List Value)

variable {r : Session}

/-- The session after an act. -/
def next (r : Session) : Act → Session
  | .run m p => ((m.runToEnd p).run r).2
  | .call callee args => ((Load.script (Run.callFromOutside callee args)).run r).2

/-- The stores after each step of an act, the last one first.  To bind the imports is one step. -/
def moments (r : Session) : Act → List Store
  | .run m p =>
    match (m.importScope p).run r with
    | (.error _, r') => [r'.scripts]
    | (.ok scope, r') =>
      ((Recorded.runModule m.context p scope).run ⟨r'.scripts, []⟩).2.past ++ [r'.scripts]
  | .call callee args => ((Recorded.callFromOutside callee args).run ⟨r.scripts, []⟩).2.past

/-- The stores during and after some acts, the last one first. -/
def later : Session → List Act → List Store
  | _, [] => []
  | r, act :: acts => later (r.next act) acts ++ (r.next act).scripts :: r.moments act

/-- What is run and called keeps the name final in its scopes, and names only what is there. -/
def Passes (name : String) (r : Session) : Act → Prop
  | .run m p =>
    FinalIn name p.scopes ∧ m.Held nothing (r.scripts.live nothing) ∧ m.ImportsFinal name
  | .call callee args =>
    callee.Final name ∧ (∀ v ∈ args, v.Final name) ∧ callee.Held (r.scripts.live nothing) ∧
      ∀ v ∈ args, v.Held (r.scripts.live nothing)

/-- Each act passes when its turn comes. -/
def PassesAll (name : String) : Session → List Act → Prop
  | _, [] => True
  | r, act :: acts => r.Passes name act ∧ (r.next act).PassesAll name acts

/-- What holds after an act that passes: the name is final in the functions that there are, all stores on the way are
sound, and constants last from each of them to all later ones. -/
structure Constant (name : String) (r : Session) (act : Act) : Prop where
  final : (r.next act).scripts.Final name
  held : ∀ s ∈ (r.next act).scripts :: r.moments act, s.WellHeld
  lasts : Lasts name (((r.next act).scripts :: r.moments act) ++ [r.scripts])

/-- **A call** keeps constants. -/
theorem constant_call (hr : r.scripts.WellHeld) (hfinal : r.scripts.Final name) {callee : Value} {args : List Value}
    (h : r.Passes name (.call callee args)) : r.Constant name (.call callee args) := by
  obtain ⟨hcallee, hargs, hcalleeheld, hargsheld⟩ := h
  have hnext : (r.next (.call callee args)).scripts = ((Run.callFromOutside callee args).run r.scripts).2 := by
    rw [next, Load.run_script]
  obtain ⟨binds, moments, hrun, hgoes⟩ := callFromOutside_recorded hr hcalleeheld hargsheld
  obtain ⟨-, hfinal', -, moments', hpast, hlasts⟩ :=
    Conducts.callFromOutside (f := 0) hcallee hargs ⟨r.scripts, []⟩ hfinal (Store.ready_nil 0 _)
  have hmoments : r.moments (.call callee args) = moments := by rw [Session.moments, hrun]
  rw [hrun] at hfinal' hpast hlasts
  obtain rfl : moments = moments' := hpast.trans (List.append_nil _)
  refine ⟨hnext ▸ hfinal', ?_, hnext ▸ hmoments ▸ hlasts⟩
  rw [hnext, hmoments]
  exact hgoes.sound hr

section

variable {m : Module} {p : Program} {scope : Scope} {r' : Session}

theorem next_run_of_error {e : LoadError} (h : (m.importScope p).run r = (.error e, r')) :
    r.next (.run m p) = r' := by
  rw [next, Module.runToEnd_eq, Run.run_bind, h]

theorem moments_run_of_error {e : LoadError} (h : (m.importScope p).run r = (.error e, r')) :
    r.moments (.run m p) = [r'.scripts] := by
  rw [moments, h]

theorem scripts_next_run (h : (m.importScope p).run r = (.ok scope, r')) :
    (r.next (.run m p)).scripts = ((Run.runModule m.context p scope).run r'.scripts).2 := by
  rw [next, Module.runToEnd_eq, Run.run_bind, h]
  dsimp only
  rw [Run.run_bind, Load.run_script]
  cases (Run.runModule m.context p scope).run r'.scripts with
  | mk result t => cases result <;> rfl

theorem moments_run (h : (m.importScope p).run r = (.ok scope, r')) :
    r.moments (.run m p)
      = ((Recorded.runModule m.context p scope).run ⟨r'.scripts, []⟩).2.past ++ [r'.scripts] := by
  rw [moments, h]

end

/-- **After the imports have been bound,** the rest of the declarations can be made in the scope of the module. -/
theorem ready_importScope (hr : r.scripts.WellHeld) (hfinal : r.scripts.Final name) {m : Module} {p : Program}
    (h : r.Passes name (.run m p)) {result : Except LoadError Scope} {r' : Session}
    (himport : (m.importScope p).run r = (result, r')) :
    r'.scripts.WellHeld ∧ r'.scripts.Final name ∧ Lasts name [r'.scripts, r.scripts] ∧
      ∀ scope, result = .ok scope → Stands (r'.scripts.live nothing) m.context scope ∧
        ∃ f, scope = [f] ∧ r'.scripts.Ready name f p.declares := by
  obtain ⟨hp, hm, himports⟩ := h
  have hown : Syntax.Final name (p.imports ++ p.declares) := (List.forall_mem_cons.1 hp).1
  obtain ⟨⟨_, hgoes⟩, hscope, -⟩ := Module.keeps_importScope hm p r hr subset_rfl
  obtain ⟨-, hfinal', hresult, moments, hpast, hlasts⟩ := Module.opens_importScope himports hown.left r hfinal
  obtain rfl : moments = [] := (List.append_eq_nil_iff.1 hpast.symm).1
  rw [himport] at hgoes hscope hfinal' hresult hlasts
  refine ⟨hgoes.sound hr, hfinal', hlasts, fun scope hok => ?_⟩
  subst hok
  obtain ⟨hdeclares, hscope'⟩ := hresult scope rfl
  exact ⟨⟨Store.live_mono hgoes.extent_le hm.context, hscope⟩, _, hscope',
    (Store.ready_withFrame r.scripts hown).right hdeclares⟩

/-- **The run of a program** keeps constants, whether its imports can be bound or not. -/
theorem constant_run (hr : r.scripts.WellHeld) (hfinal : r.scripts.Final name) {m : Module} {p : Program}
    (h : r.Passes name (.run m p)) : r.Constant name (.run m p) := by
  obtain ⟨result, r', himport⟩ : ∃ result r', (m.importScope p).run r = (result, r') := ⟨_, _, rfl⟩
  obtain ⟨hr', hfinal', hlasts, hscope⟩ := ready_importScope hr hfinal h himport
  cases result with
  | error e =>
    -- some of the imports may have been bound, and nothing has run
    have hnext := next_run_of_error himport
    have hmoments := moments_run_of_error himport
    refine ⟨hnext ▸ hfinal', ?_, ?_⟩
    · rw [hnext, hmoments]
      exact List.forall_mem_cons.2 ⟨hr', List.forall_mem_singleton.2 hr'⟩
    · rw [hnext, hmoments]
      exact hlasts.head
  | ok scope =>
    obtain ⟨hstands, f, rfl, hready⟩ := hscope scope rfl
    obtain ⟨_, moments, hrun, hgoes⟩ := runModule_recorded hr' p hstands
    obtain ⟨-, hfinal', -, moments', hpast, hlasts'⟩ :=
      Conducts.runModule m.context h.1 ⟨r'.scripts, []⟩ hfinal' hready
    have hnext := scripts_next_run himport
    have hmoments := moments_run himport
    rw [hrun] at hmoments hfinal' hpast hlasts'
    obtain rfl : moments = moments' := hpast.trans (List.append_nil _)
    refine ⟨hnext ▸ hfinal', ?_, ?_⟩
    · rw [hnext, hmoments, ← List.cons_append]
      exact List.forall_mem_append.2 ⟨hgoes.sound hr', List.forall_mem_singleton.2 hr'⟩
    · rw [hnext, hmoments, ← List.cons_append, List.append_assoc]
      exact hlasts'.append hlasts.head

theorem constant_act (hr : r.scripts.WellHeld) (hfinal : r.scripts.Final name) {act : Act} (h : r.Passes name act) :
    r.Constant name act := by
  cases act with
  | run m p => exact constant_run hr hfinal h
  | call callee args => exact constant_call hr hfinal h

/-- What is constant after some act is so after all later ones. -/
theorem lasts_later (hr : r.scripts.WellHeld) (hfinal : r.scripts.Final name) {acts : List Act}
    (hacts : r.PassesAll name acts) :
    (∀ s ∈ r.later acts, s.WellHeld) ∧ Lasts name (r.later acts ++ [r.scripts]) := by
  induction acts generalizing r with
  | nil => exact ⟨nofun, List.pairwise_singleton _ _⟩
  | cons act acts ih =>
    obtain ⟨hfinal', hheld, hlasts⟩ := constant_act hr hfinal hacts.1
    obtain ⟨hheld', hlasts'⟩ := ih (List.forall_mem_cons.1 hheld).1 hfinal' hacts.2
    refine ⟨List.forall_mem_append.2 ⟨hheld', hheld⟩, ?_⟩
    rw [later, List.append_assoc]
    exact hlasts'.append hlasts.head

/-- **Constants last.**  Programs of modules are run and values are called, one after the other.  If a name is bound as
a constant in a frame at any moment of this, then at all later moments it has the same value in all scopes in which it
is found in that frame, and assigning to it is an error that changes nothing.  All this for names that no scope of the
code declares again after having declared it as a constant. -/
theorem constants_last (hr : r.scripts.WellHeld) (hfinal : r.scripts.Final name) {acts : List Act}
    (hacts : r.PassesAll name acts) :
    (r.later acts ++ [r.scripts]).Pairwise fun later earlier => earlier.KeepsConstants name later := by
  obtain ⟨hheld, hlasts⟩ := lasts_later hr hfinal hacts
  have hall : ∀ s ∈ r.later acts ++ [r.scripts], s.WellHeld :=
    List.forall_mem_append.2 ⟨hheld, List.forall_mem_singleton.2 hr⟩
  exact hlasts.imp_of_mem fun hlater hearlier h => h.keepsConstants (hall _ hearlier) (hall _ hlater)

/-- A session in which there is nothing but a global object. -/
def oneContext : Session :=
  ⟨⟨⟨[], []⟩, [], [], [], 0⟩, { Store.empty ⟨none, "/tmp", none, [], 1, "linux", "x64"⟩ with objects := #[[]] }⟩

theorem wellHeld_oneContext : oneContext.scripts.WellHeld := ⟨nofun, by decide, by decide, by decide⟩

theorem final_oneContext : oneContext.scripts.Final name := by
  constructor <;> simp [oneContext, Store.empty]

/-- A module of a program that imports nothing. -/
def aloneIn (p : Program) : Module := .ofProgram ⟨"file", none, .segments ["a.js"], none, none⟩ p 0

theorem held_aloneIn (p : Program) : (aloneIn p).Held nothing (oneContext.scripts.live nothing) :=
  ⟨show (.object 0 : Thing) ∈ oneContext.scripts.live nothing by decide, trivial, nofun, trivial⟩

theorem importsFinal_aloneIn (p : Program) : (aloneIn p).ImportsFinal name := nofun

/-- A constant that a function assigns to.  Calling it fails, and the constant is what it was. -/
theorem constants_last_assigned :
    let change : List Stmt := [.eval (.assign (.name "x") (.string "second"))]
    let p : Program := ⟨[.statement (.declare (.constant "x" (.string "first"))),
      .exporting (.declaration (.function "change" [] change))]⟩
    let callee : Value := .function ⟨0, ⟨some "change", [], .block change⟩, [0], 0, .strong⟩
    let acts : List Act := [.run (aloneIn p) p, .call callee []]
    let declared := oneContext.next (.run (aloneIn p) p)
    (((aloneIn p).runToEnd p).run oneContext).1 = .ok [0] ∧
      declared.scripts.constant? 0 "x" = some (.string "first") ∧
      ((Run.callFromOutside callee []).run declared.scripts).1 = .error (.constant "x") ∧
      (declared.next (.call callee [])).scripts.constant? 0 "x" = some (.string "first") ∧
      (oneContext.later acts ++ [oneContext.scripts]).Pairwise fun later earlier =>
        earlier.KeepsConstants "x" later := by
  intro change p callee acts declared
  have hcallee : callee.Final "x" := by
    intro function hfunction
    obtain rfl := List.mem_singleton.1 hfunction
    decide
  have hargs {P : Value → Prop} : ∀ v ∈ ([] : List Value), P v := fun _ h => absurd h List.not_mem_nil
  have hrun : oneContext.Passes "x" (.run (aloneIn p) p) :=
    ⟨by decide, held_aloneIn p, importsFinal_aloneIn p⟩
  have hcall : declared.Passes "x" (.call callee []) := ⟨hcallee, hargs, by decide, hargs⟩
  refine ⟨by rfl, by rfl, by rfl, by rfl, ?_⟩
  exact constants_last wellHeld_oneContext final_oneContext ⟨hrun, hcall, trivial⟩

/-- **A constant that is declared again** in its scope, as a variable, is one no more.  The program runs to its end, and
the name has another value then than it had after the first declaration. -/
theorem constant_redeclared :
    let p : Program := ⟨[.statement (.declare (.constant "x" (.string "first"))),
      .statement (.declare (.variable .varWord "x" (some (.string "second"))))]⟩
    (((aloneIn p).runToEnd p).run oneContext).1 = .ok [0] ∧
      ¬ ∀ (r : Session) (m : Module) (p : Program) (name : String), r.scripts.WellHeld → r.scripts.Final name →
        m.Held nothing (r.scripts.live nothing) → m.ImportsFinal name →
          (r.later [.run m p] ++ [r.scripts]).Pairwise fun later earlier => earlier.KeepsConstants name later := by
  intro p
  refine ⟨by rfl, fun h => ?_⟩
  have hkeeps := h oneContext (aloneIn p) p "x" wellHeld_oneContext final_oneContext (held_aloneIn p)
    (importsFinal_aloneIn p)
  -- the stores after the second declaration and after the first one
  have hlast : (oneContext.later [.run (aloneIn p) p])[2].KeepsConstants "x"
      (oneContext.later [.run (aloneIn p) p])[0] :=
    List.pairwise_iff_getElem.1 (List.pairwise_append.1 hkeeps).1 0 2 (by decide) (by decide) (by decide)
  have hdeclared : (oneContext.later [.run (aloneIn p) p])[2].constant? 0 "x" = some (.string "first") := by rfl
  have hinner : ∀ g ∈ ([] : Scope), Dict.get? ((oneContext.later [.run (aloneIn p) p])[0].frame g) "x" = none :=
    fun _ h => absurd h List.not_mem_nil
  obtain ⟨hsame, -⟩ := @hlast 0 _ hdeclared [] [] hinner
  have hsecond : (oneContext.later [.run (aloneIn p) p])[0].lookup? "x" [0] = some (.string "second") := by rfl
  have hfirst : (oneContext.later [.run (aloneIn p) p])[2].lookup? "x" [0] = some (.string "first") := by rfl
  simpa using hsecond.symm.trans (hsame.trans hfirst)

end Session
end ScriptImport
