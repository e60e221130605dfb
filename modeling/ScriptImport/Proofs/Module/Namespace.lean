/-
# The exports of a module

Two readings of a program tell what it exports.  `Program.declared` lists the names; `Program.origins` also says
where the value of each name comes from, and both find the same names (`Program.map_fst_origins`).  When the body
has run to its end, the values of the origins are collected, and of equal names the last one counts
(`run_collect`, `Collects.get?`).  Then `export * from` adds the names of other modules that are not there yet
(`run_passOnAll`).  So the exports of a module are exactly what it declares and what it passes on
(`evaluate_exports`).
-/

import ScriptImport.Proofs.Dict
import ScriptImport.Proofs.Module.Evaluate

namespace ScriptImport

open Script

namespace Syntax

/-- Where the value of an export comes from: a name of the module itself, or an export of another one. -/
inductive ExportOrigin where
  | own (name : String)
  | imported (name source : String)
  deriving Repr, DecidableEq

/-- The names that an item exports by itself, in their order, with the origins of their values. -/
def Item.origins : Item → List (String × ExportOrigin)
  | .exporting (.defaultValue _) => [("default", .own defaultBinding)]
  | .exporting (.defaultFunction ..) => [("default", .own defaultBinding)]
  | .exporting (.declaration d) => [(d.name, .own d.name)]
  | .exporting (.names ns) => ns.map fun n => (n.exported, .own n.localName)
  | .exporting (.namesFrom ns source) => ns.map fun n => (n.exported, .imported n.localName source)
  | _ => []

/-- The origin of a name that an item exports; if it exports the name twice, the later one. -/
def Item.origin? (i : Item) (name : String) : Option ExportOrigin :=
  (i.origins.reverse.find? (·.1 = name)).map (·.2)

/-- The module all of whose exports an item passes on. -/
def Item.passedOn? : Item → Option String
  | .exporting (.allFrom source) => some source
  | _ => none

/-- The names that a program exports by itself, with the origins of their values. -/
def Program.origins (p : Program) : List (String × ExportOrigin) := p.body.flatMap Item.origins

/-- The modules all of whose exports a program passes on, in the order of the source. -/
def Program.passedOn (p : Program) : List String := p.body.filterMap Item.passedOn?

theorem Item.map_fst_origins (i : Item) : i.origins.map (·.1) = i.declared := by
  rcases i with _ | e | _
  · rfl
  · cases e with
    | names ns => exact List.map_map
    | namesFrom ns source => exact List.map_map
    | _ => rfl
  · rfl

/-- **Both readings of a program find the same names.** -/
theorem Program.map_fst_origins (p : Program) : p.origins.map (·.1) = p.declared := by
  rw [origins, declared, List.map_flatMap]
  exact congrArg (List.flatMap · p.body) (funext Item.map_fst_origins)

/-- The origin of a name that a program exports by itself: what the last export of the name says. -/
def Program.origin? (p : Program) (name : String) : Option ExportOrigin :=
  (p.origins.reverse.find? (·.1 = name)).map (·.2)

/-- The names with an origin are those that are exported. -/
theorem isSome_last_origin {os : List (String × ExportOrigin)} {name : String} (h : name ∈ os.map (·.1)) :
    ((os.reverse.find? (·.1 = name)).map (·.2)).isSome := by
  obtain ⟨o, ho, rfl⟩ := List.mem_map.1 h
  rw [Option.isSome_map, List.find?_isSome]
  exact ⟨o, List.mem_reverse.2 ho, by simp⟩

theorem Item.isSome_origin? {i : Item} {name : String} (h : name ∈ i.declared) : (i.origin? name).isSome :=
  isSome_last_origin (i.map_fst_origins ▸ h)

theorem Program.isSome_origin? {p : Program} {name : String} (h : name ∈ p.declared) :
    (p.origin? name).isSome :=
  isSome_last_origin (p.map_fst_origins ▸ h)

/-- The last item that exports a name says where its value comes from. -/
theorem Program.origin?_eq_of_last {p : Program} {before after : List Item} {i : Item} {name : String}
    (hbody : p.body = before ++ i :: after) (hname : name ∈ i.declared)
    (hafter : ∀ j ∈ after, name ∉ j.declared) : p.origin? name = i.origin? name := by
  have hlater : (after.flatMap Item.origins).reverse.find? (·.1 = name) = none := by
    rw [List.find?_eq_none]
    intro o ho heq
    obtain ⟨j, hj, ho⟩ := List.mem_flatMap.1 (List.mem_reverse.1 ho)
    refine hafter j hj ?_
    rw [← j.map_fst_origins, ← of_decide_eq_true heq]
    exact List.mem_map_of_mem ho
  have hhere := Item.isSome_origin? hname
  rw [Item.origin?, Option.isSome_map] at hhere
  obtain ⟨o, ho⟩ := Option.isSome_iff_exists.1 hhere
  rw [Program.origin?, Program.origins, hbody, Item.origin?, List.flatMap_append, List.flatMap_cons,
    List.reverse_append, List.reverse_append, List.append_assoc, List.find?_append, hlater, List.find?_append, ho]
  rfl

end Syntax

namespace Module

open Syntax

variable {m : Module} {s s' : Session} {scope : Scope} {p : Program} {entries entries' : Dict Value}

/-- The exports of the module below `m` for a specifier, once it has been evaluated. -/
def exportsFrom? (m : Module) (specifier : String) : Option Namespace :=
  (m.dependency? specifier).bind (·.exports)

/-- The value of an export of the module below `m` for a specifier. -/
def valueFrom? (m : Module) (specifier name : String) : Option Value :=
  (m.exportsFrom? specifier).bind fun exports => Dict.get? exports.entries name

/-- The value that an export with a given origin has, if the module has run in `scope`. -/
def valueOf? (m : Module) (scope : Scope) (scripts : Store) : ExportOrigin → Option Value
  | .own name => scripts.lookup? name scope
  | .imported name source => m.valueFrom? source name

theorem valueFrom?_congr {m' : Module} (h : m.dependencies = m'.dependencies) : m.valueFrom? = m'.valueFrom? := by
  funext source name
  rw [valueFrom?, exportsFrom?, dependency?, h, ← dependency?, ← exportsFrom?, ← valueFrom?]

theorem valueOf?_congr {m' : Module} (h : m.dependencies = m'.dependencies) : m.valueOf? = m'.valueOf? := by
  funext scope scripts o
  cases o with
  | own => rfl
  | imported name source => rw [valueOf?, valueOf?, valueFrom?_congr h]

/-! ### Looking up one value -/

theorem run_importedFrom {specifier : String} {exports : Namespace}
    (h : (m.importedFrom specifier).run s = (.ok exports, s')) :
    s' = s ∧ m.exportsFrom? specifier = some exports := by
  unfold importedFrom at h
  unfold exportsFrom?
  cases hd : m.dependency? specifier with
  | none => rw [hd] at h; cases h
  | some d =>
    rw [hd] at h
    dsimp only at h
    cases hexports : d.exports with
    | none => rw [hexports] at h; cases h
    | some exports' =>
      rw [hexports] at h
      cases h
      exact ⟨rfl, hexports⟩

theorem run_exported {exports : Namespace} {specifier name : String} {v : Value}
    (h : (exported exports specifier name).run s = (.ok v, s')) :
    s' = s ∧ Dict.get? exports.entries name = some v := by
  unfold exported at h
  split at h
  · next hv => cases h; exact ⟨rfl, hv⟩
  · cases h

theorem run_localValue {name : String} {v : Value} (h : (localValue scope name).run s = (.ok v, s')) :
    s' = s ∧ s.scripts.lookup? name scope = some v := by
  unfold localValue at h
  rw [Load.run_bind_of_ok (Load.run_get s)] at h
  split at h
  · next hv => cases h; exact ⟨rfl, hv⟩
  · cases h

/-! ### The exports of the module itself -/

/-- An entry has the name of an export, and the value that its origin has. -/
structure IsValue (value? : ExportOrigin → Option Value) (o : String × ExportOrigin)
    (e : String × Value) : Prop where
  name : e.1 = o.1
  value : value? o.2 = some e.2

/-- A step has collected the values of some exports if it has inserted them in their order. -/
def Collects (value? : ExportOrigin → Option Value) (origins : List (String × ExportOrigin))
    (entries entries' : Dict Value) : Prop :=
  ∃ added, List.Forall₂ (IsValue value?) origins added ∧ entries' = Dict.insertAll entries added

variable {value? : ExportOrigin → Option Value} {os os₁ os₂ : List (String × ExportOrigin)}

theorem collects_nil (value? : ExportOrigin → Option Value) (entries : Dict Value) :
    Collects value? [] entries entries := ⟨[], .nil, rfl⟩

theorem collects_singleton {o : ExportOrigin} {v : Value} (name : String) (h : value? o = some v)
    (entries : Dict Value) : Collects value? [(name, o)] entries (Dict.insert entries name v) :=
  ⟨[(name, v)], .cons ⟨rfl, h⟩ .nil, rfl⟩

theorem Collects.trans {entries₁ entries₂ entries₃ : Dict Value} (h₁ : Collects value? os₁ entries₁ entries₂)
    (h₂ : Collects value? os₂ entries₂ entries₃) : Collects value? (os₁ ++ os₂) entries₁ entries₃ := by
  obtain ⟨added₁, hvalues₁, rfl⟩ := h₁
  obtain ⟨added₂, hvalues₂, rfl⟩ := h₂
  exact ⟨added₁ ++ added₂, List.rel_append hvalues₁ hvalues₂, List.foldl_append.symm⟩

/-- Steps that collect values one after the other collect all of them. -/
theorem run_foldlM_collects {α : Type} {f : Dict Value → α → Load (Dict Value)}
    {origins : α → List (String × ExportOrigin)}
    (hf : ∀ a entries entries' s', (f entries a).run s = (.ok entries', s') →
      s' = s ∧ Collects value? (origins a) entries entries')
    {as : List α} {entries entries' : Dict Value} (h : (as.foldlM f entries).run s = (.ok entries', s')) :
    s' = s ∧ Collects value? (as.flatMap origins) entries entries' := by
  induction as generalizing entries with
  | nil => cases h; exact ⟨rfl, collects_nil value? _⟩
  | cons a as ih =>
    rw [List.foldlM_cons] at h
    obtain ⟨entries₁, s₁, hfirst, hrest⟩ := Load.run_bind_eq_ok.1 h
    obtain ⟨rfl, hadded⟩ := hf _ _ _ _ hfirst
    obtain ⟨hs, hothers⟩ := ih hrest
    exact ⟨hs, hadded.trans hothers⟩

theorem run_insert_localValue {name localName : String}
    (h : (do return Dict.insert entries name (← localValue scope localName) : Load (Dict Value)).run s
      = (.ok entries', s')) :
    s' = s ∧ Collects (m.valueOf? scope s.scripts) [(name, .own localName)] entries entries' := by
  obtain ⟨v, s₁, hv, hinsert⟩ := Load.run_bind_eq_ok.1 h
  obtain ⟨rfl, hvalue⟩ := run_localValue hv
  cases hinsert
  exact ⟨rfl, collects_singleton name hvalue entries⟩

theorem run_insert_exported {source name importedName : String} {exports : Namespace}
    (hexports : m.exportsFrom? source = some exports)
    (h : (do return Dict.insert entries name (← exported exports source importedName) : Load (Dict Value)).run s
      = (.ok entries', s')) :
    s' = s ∧ Collects (m.valueOf? scope s.scripts) [(name, .imported importedName source)] entries entries' := by
  obtain ⟨v, s₁, hv, hinsert⟩ := Load.run_bind_eq_ok.1 h
  obtain ⟨rfl, hvalue⟩ := run_exported hv
  cases hinsert
  refine ⟨rfl, collects_singleton name ?_ entries⟩
  rw [valueOf?, valueFrom?, hexports]
  exact hvalue

/-- An item adds the values of its exports. -/
theorem run_collect {i : Item} (h : (m.collect scope entries i).run s = (.ok entries', s')) :
    s' = s ∧ Collects (m.valueOf? scope s.scripts) i.origins entries entries' := by
  rcases i with _ | e | _
  · cases h; exact ⟨rfl, collects_nil _ _⟩
  · cases e with
    | defaultValue => exact run_insert_localValue h
    | defaultFunction => exact run_insert_localValue h
    | declaration d => exact run_insert_localValue h
    | names ns =>
      rw [Item.origins, List.map_eq_flatMap]
      exact run_foldlM_collects (fun n _ _ _ h => run_insert_localValue h) h
    | namesFrom ns source =>
      obtain ⟨exports, s₁, hexports, hnames⟩ := Load.run_bind_eq_ok.1 h
      obtain ⟨rfl, hfrom⟩ := run_importedFrom hexports
      rw [Item.origins, List.map_eq_flatMap]
      exact run_foldlM_collects (fun n _ _ _ h => run_insert_exported hfrom h) hnames
    | allFrom source => cases h; exact ⟨rfl, collects_nil _ _⟩
  · cases h; exact ⟨rfl, collects_nil _ _⟩

/-- Of values that are collected, the last one with a name counts. -/
theorem Collects.get? (h : Collects value? os entries entries') (name : String) :
    (∀ o, (os.reverse.find? (·.1 = name)).map (·.2) = some o →
      ∃ v, value? o = some v ∧ Dict.get? entries' name = some v) ∧
    (name ∉ os.map (·.1) → Dict.get? entries' name = Dict.get? entries name) := by
  obtain ⟨added, hvalues, rfl⟩ := h
  rw [Dict.get?_insertAll]
  have hreverse := List.rel_reverse hvalues
  rw [← List.mem_reverse, ← List.map_reverse]
  generalize os.reverse = os at hreverse
  generalize added.reverse = added at hreverse
  induction hreverse with
  | nil => simp
  | @cons o e os added he _ ih =>
    simp only [List.find?_cons, List.map_cons, List.mem_cons, he.name]
    by_cases hname : o.1 = name
    · simp [hname, he.value]
    · simpa [hname, Ne.symm hname] using ih

theorem Collects.ordered (h : Collects value? os entries entries') (hentries : Dict.Ordered entries) :
    Dict.Ordered entries' := by
  obtain ⟨added, -, rfl⟩ := h
  exact hentries.insertAll added

/-! ### The exports of other modules -/

/-- The value that a name gets by passing on all exports of some modules: that of the first one which has it. -/
def passedOn? (m : Module) (sources : List String) (name : String) : Option Value :=
  if name = "default" then none else sources.findSome? (m.valueFrom? · name)

/-- What passing on all exports of some modules adds: the names that are not there yet. -/
structure PassesOn (m : Module) (sources : List String) (entries entries' : Dict Value) : Prop where
  ordered : Dict.Ordered entries → Dict.Ordered entries'
  value : ∀ name, Dict.get? entries' name = (Dict.get? entries name).or (m.passedOn? sources name)

theorem PassesOn.congr {m' : Module} {sources : List String} (h : PassesOn m sources entries entries')
    (hm' : m.dependencies = m'.dependencies) : PassesOn m' sources entries entries' := by
  refine ⟨h.ordered, fun name => ?_⟩
  rw [h.value, passedOn?, passedOn?, valueFrom?_congr hm']

theorem passesOn_nil (m : Module) (entries : Dict Value) : PassesOn m [] entries entries :=
  ⟨id, fun name => by simp [passedOn?]⟩

theorem PassesOn.trans {sources₁ sources₂ : List String} {entries₁ entries₂ entries₃ : Dict Value}
    (h₁ : PassesOn m sources₁ entries₁ entries₂) (h₂ : PassesOn m sources₂ entries₂ entries₃) :
    PassesOn m (sources₁ ++ sources₂) entries₁ entries₃ := by
  refine ⟨h₂.ordered ∘ h₁.ordered, fun name => ?_⟩
  rw [h₂.value, h₁.value, Option.or_assoc]
  by_cases hname : name = "default" <;> simp [passedOn?, hname, List.findSome?_append]

theorem get?_addMissing (entries : Dict Value) (e : String × Value) (name : String) :
    Dict.get? (addMissing entries e) name
      = (Dict.get? entries name).or (if name = "default" ∨ e.1 ≠ name then none else some e.2) := by
  by_cases hname : e.1 = name
  · subst hname
    unfold addMissing Dict.contains
    cases hv : Dict.get? entries e.1 with
    | none =>
      by_cases hdefault : e.1 = "default"
      · rw [if_pos (.inl hdefault), if_pos (.inl hdefault), hv, Option.or_none]
      · simp [hdefault, Dict.get?_insert]
    | some v => simp [hv]
  · have hother : Dict.get? (Dict.insert entries e.1 e.2) name = Dict.get? entries name := by
      rw [Dict.get?_insert, if_neg (Ne.symm hname)]
    unfold addMissing
    split <;> simp [hname, hother]

theorem get?_foldl_addMissing (others entries : Dict Value) (name : String) :
    Dict.get? (others.foldl addMissing entries) name
      = (Dict.get? entries name).or (if name = "default" then none else Dict.get? others name) := by
  induction others generalizing entries with
  | nil => simp [Dict.get?]
  | cons e others ih =>
    obtain ⟨key, v⟩ := e
    rw [List.foldl_cons, ih, get?_addMissing, Option.or_assoc]
    congr 1
    by_cases hdefault : name = "default"
    · simp [hdefault]
    · by_cases hname : name = key
      · subst hname
        simp [hdefault, Dict.get?]
      · simp [hdefault, Ne.symm hname, Dict.get?, List.lookup_cons, beq_false_of_ne hname]

theorem ordered_foldl_addMissing (others : Dict Value) (h : Dict.Ordered entries) :
    Dict.Ordered (others.foldl addMissing entries) := by
  induction others generalizing entries with
  | nil => exact h
  | cons e others ih =>
    refine ih ?_
    unfold addMissing
    split
    · exact h
    · exact h.insert e.1 e.2

theorem passesOn_exports {source : String} {exports : Namespace} (h : m.exportsFrom? source = some exports)
    (entries : Dict Value) : PassesOn m [source] entries (exports.entries.foldl addMissing entries) := by
  refine ⟨ordered_foldl_addMissing exports.entries, fun name => ?_⟩
  rw [get?_foldl_addMissing]
  simp only [passedOn?, valueFrom?, h, List.findSome?_singleton, Option.bind_some]

/-- An item adds the exports of the module that it passes on. -/
theorem run_passOn {i : Item} (h : (m.passOn entries i).run s = (.ok entries', s')) :
    s' = s ∧ PassesOn m i.passedOn?.toList entries entries' := by
  rcases i with _ | e | _
  · cases h; exact ⟨rfl, passesOn_nil m _⟩
  · cases e with
    | allFrom source =>
      obtain ⟨exports, s₁, hexports, hadd⟩ := Load.run_bind_eq_ok.1 h
      obtain ⟨rfl, hfrom⟩ := run_importedFrom hexports
      cases hadd
      exact ⟨rfl, passesOn_exports hfrom entries⟩
    | _ => cases h; exact ⟨rfl, passesOn_nil m _⟩
  · cases h; exact ⟨rfl, passesOn_nil m _⟩

theorem run_passOnAll {items : List Item} (h : (items.foldlM m.passOn entries).run s = (.ok entries', s')) :
    s' = s ∧ PassesOn m (items.filterMap Item.passedOn?) entries entries' := by
  induction items generalizing entries with
  | nil => cases h; exact ⟨rfl, passesOn_nil m _⟩
  | cons i items ih =>
    rw [List.foldlM_cons] at h
    obtain ⟨entries₁, s₁, hfirst, hrest⟩ := Load.run_bind_eq_ok.1 h
    obtain ⟨rfl, hadded⟩ := run_passOn hfirst
    obtain ⟨hs, hothers⟩ := ih hrest
    refine ⟨hs, ?_⟩
    have htrans := hadded.trans hothers
    cases hi : i.passedOn? <;> simpa [List.filterMap_cons, hi] using htrans

/-! ### All exports -/

theorem run_runProgram (h : (m.runProgram p).run s = (.ok entries, s')) :
    ∃ scope, (m.runToEnd p).run s = (.ok scope, s') ∧ ∃ own,
      Collects (m.valueOf? scope s'.scripts) p.origins [] own ∧ PassesOn m p.passedOn own entries := by
  rw [runProgram_eq] at h
  obtain ⟨scope, s₁, hend, h⟩ := Load.run_bind_eq_ok.1 h
  obtain ⟨own, s₂, hown, hall⟩ := Load.run_bind_eq_ok.1 h
  obtain ⟨rfl, hcollects⟩ := run_foldlM_collects (f := m.collect scope) (fun _ _ _ _ => run_collect) hown
  obtain ⟨rfl, hpasses⟩ := run_passOnAll hall
  exact ⟨scope, hend, own, hcollects, hpasses⟩

/-- The names of all exports are those that are declared and those that are passed on. -/
theorem mem_keys_exports {own : Dict Value} (hown : Collects value? p.origins [] own)
    (hall : PassesOn m p.passedOn own entries) (name : String) :
    name ∈ Dict.keys entries ↔ name ∈ p.declared ∨ name ≠ "default" ∧
      ∃ source ∈ p.passedOn, ∃ other, m.exportsFrom? source = some other ∧ name ∈ Dict.keys other.entries := by
  have hdeclared : (Dict.get? own name).isSome ↔ name ∈ p.declared := by
    constructor
    · intro h
      by_contra hname
      rw [← p.map_fst_origins] at hname
      rw [(hown.get? name).2 hname] at h
      cases h
    · intro h
      obtain ⟨o, ho⟩ := Option.isSome_iff_exists.1 (Program.isSome_origin? h)
      obtain ⟨v, -, hv⟩ := (hown.get? name).1 o ho
      rw [hv]
      rfl
  have hpassedOn : (m.passedOn? p.passedOn name).isSome ↔ name ≠ "default" ∧
      ∃ source ∈ p.passedOn, ∃ other, m.exportsFrom? source = some other ∧ name ∈ Dict.keys other.entries := by
    unfold passedOn?
    by_cases hname : name = "default"
    · simp [hname]
    · rw [if_neg hname, List.findSome?_isSome_iff]
      simp [hname, valueFrom?, Dict.mem_keys, Option.isSome_bind, Option.any_eq_true]
  rw [Dict.mem_keys, hall.value, Option.isSome_or, Bool.or_eq_true, hdeclared, hpassedOn]

/-- **The exports of a module, exactly.**  If a program has been evaluated, the modules below it have been
evaluated before and its body has run to its end.  The names of its exports are those that it declares and, except
for `default`, all names that the modules export which it passes on.  The value of a name comes from the last item
that declares it, and is the value at the end of the body if the name is one of the module itself; if no item
declares the name, it is the value in the first of the modules passed on that has it. -/
theorem evaluate_exports {m' : Module} {exports : Namespace} (hkind : m.kind = .source p)
    (h : m.evaluate s = ((m', .ok exports), s')) :
    ∃ (s₁ s₂ : Session) (scope : Scope), evaluateAll m.dependencies s = ((m'.dependencies, .ok ()), s₁) ∧
      (((m.withState .evaluating).withDependencies m'.dependencies).runToEnd p).run s₁ = (.ok scope, s₂) ∧
      m'.exports = some exports ∧ Dict.Ordered exports.entries ∧
      (∀ name, name ∈ Dict.keys exports.entries ↔ name ∈ p.declared ∨ name ≠ "default" ∧
        ∃ source ∈ p.passedOn, ∃ other, m'.exportsFrom? source = some other ∧ name ∈ Dict.keys other.entries) ∧
      (∀ before i after name, p.body = before ++ i :: after → name ∈ i.declared →
        (∀ j ∈ after, name ∉ j.declared) → ∃ o v, i.origin? name = some o ∧
          m'.valueOf? scope s₂.scripts o = some v ∧ Dict.get? exports.entries name = some v) ∧
      (∀ name, name ∉ p.declared → name ≠ "default" →
        Dict.get? exports.entries name = p.passedOn.findSome? (m'.valueFrom? · name)) ∧
      ("default" ∈ Dict.keys exports.entries ↔ "default" ∈ p.declared) := by
  obtain ⟨s₁, s₃, hbelow, hrun, hexports⟩ := evaluate_eq_ok h
  let m₁ := (m.withState .evaluating).withDependencies m'.dependencies
  have hkind₁ : m₁.kind = .source p := by rw [← hkind]; cases m; rfl
  have hdependencies : m₁.dependencies = m'.dependencies := by cases m; rfl
  rw [runExports_eq] at hrun
  obtain ⟨entries, s₂, hbody, hentries⟩ := Load.run_bind_eq_ok.1 hrun
  have hentries : exports.entries = entries := by cases hentries; rfl
  rw [runBody_eq, hkind₁] at hbody
  obtain ⟨scope, hend, own, hown, hall⟩ := run_runProgram hbody
  rw [valueOf?_congr hdependencies] at hown
  replace hall := hall.congr hdependencies
  rw [← hentries] at hall
  have hkeys := mem_keys_exports hown hall
  refine ⟨s₁, s₂, scope, hbelow, hend, hexports, hall.ordered (hown.ordered Dict.ordered_nil), hkeys, ?_, ?_, ?_⟩
  · intro before i after name hitem hname hafter
    have horigin := Program.origin?_eq_of_last hitem hname hafter
    obtain ⟨o, ho⟩ := Option.isSome_iff_exists.1 (Item.isSome_origin? hname)
    obtain ⟨v, hvalue, hget⟩ := (hown.get? name).1 o (horigin.trans ho)
    refine ⟨o, v, ho, hvalue, ?_⟩
    rw [hall.value, hget]
    rfl
  · intro name hname hdefault
    rw [← p.map_fst_origins] at hname
    rw [hall.value, (hown.get? name).2 hname, passedOn?, if_neg hdefault]
    rfl
  · rw [hkeys]
    simp

/-- A module that passes on what another one exports, changes a name after it has been exported, and exports
another name twice. -/
theorem evaluate_exports_passed_on :
    let url : Url := ⟨"file", none, .segments ["m.mjs"], none, none⟩
    let other : Program :=
      ⟨[.exporting (.defaultValue (.string "d")), .exporting (.declaration (.constant "b" (.string "b")))]⟩
    let p : Program :=
      ⟨[.exporting (.declaration (.variable .letWord "a" (some .null))), .exporting (.allFrom "./other.mjs"),
        .exporting (.namesFrom [⟨"default", "c"⟩] "./other.mjs"), .exporting (.names [⟨"a", "c"⟩]),
        .statement (.eval (.assign (.name "a") (.string "a")))]⟩
    let below : Module := .node url 0 (.source other) .linked none []
    let m : Module := .node url 0 (.source p) .linked none [("./other.mjs", below)]
    let s : Session := ⟨⟨.empty, [], [], [], 0⟩, .empty ⟨none, "/tmp", none, [], 1, "linux", "x64"⟩⟩
    m.kind = .source p ∧ ∃ m' exports s', m.evaluate s = ((m', .ok exports), s') ∧
      "default" ∉ Dict.keys exports.entries ∧
      ∃ v, Dict.get? exports.entries "a" = some v ∧ Dict.get? exports.entries "c" = some v := by
  intro url other p below m s
  have hok : (m.evaluate s).1.2.isOk := by decide +kernel
  generalize hrun : m.evaluate s = run at hok
  obtain ⟨⟨m', _ | exports⟩, s'⟩ := run
  · cases hok
  obtain ⟨s₁, s₂, scope, -, -, -, -, -, hdeclared, -, hdefault⟩ := evaluate_exports rfl hrun
  obtain ⟨o, v, ho, hv, hc⟩ := hdeclared (p.body.take 3) (.exporting (.names [⟨"a", "c"⟩])) (p.body.drop 4) "c"
    rfl (by decide) (by decide)
  obtain ⟨o', v', ho', hv', ha⟩ := hdeclared [] (.exporting (.declaration (.variable .letWord "a" (some .null))))
    (p.body.drop 1) "a" rfl (by decide) (by decide)
  have horigin : o = o' := Option.some.inj (ho.symm.trans ho')
  obtain rfl : v = v' := Option.some.inj (hv.symm.trans (horigin ▸ hv'))
  exact ⟨rfl, m', exports, s', rfl, fun h => absurd (hdefault.1 h) (by decide), v, ha, hc⟩

end Module
end ScriptImport
