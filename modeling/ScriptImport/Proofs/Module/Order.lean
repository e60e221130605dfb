/-
# The order of evaluation

What an evaluation comes to is found from the modules below to those above.  Trees next to one
another are evaluated up to the first one that fails (`evaluateAllNoting_ends`); a module fails where one below it
does (`FailsAt.below`), and if none does, it ends as running it does (`ends_finish`).  So the bodies of a linked
tree start in the order of its positions, each once, up to the first module that fails, and that one decides what
becomes of all others (`evaluation_order`).
-/

import ScriptImport.Proofs.Module.Noting

namespace ScriptImport
namespace Module

open Script Syntax

variable {m m' : Module} {s s' : Session}

/-! ### How an evaluation ends -/

/-- The module at a position has come to a state, and it has exports or it has none. -/
def Became (m m' : Module) (q : Position) (state : ModuleState) (hasExports : Bool) : Prop :=
  ∃ x x', m.at? q = some x ∧ m'.at? q = some x' ∧ x'.url = x.url ∧ x'.kind = x.kind ∧
    x'.state = state ∧ x'.exports.isSome = hasExports

/-- The tree `m` became `m'` when its evaluation failed at the position `p`, and has started the bodies at the
positions `started`. -/
structure FailsAt (m m' : Module) (before : List Position) (p : Position) (after started : List Position)
    (e : LoadError) (s' : Session) : Prop where
  /-- The position is one of the tree. -/
  order : m.postorder = before ++ p :: after
  /-- All before it is evaluated and has exports. -/
  earlier : ∀ q ∈ before, Became m m' q .evaluated true
  /-- The module there and those above it have failed. -/
  above : ∀ q, q <+: p → Became m m' q .failed false
  /-- All others are as before. -/
  later : ∀ q ∈ after, ¬ q <+: p → m'.at? q = m.at? q
  /-- The error is that of the module there.  It is the last one whose body has started, or its imports could not
  be bound. -/
  cause : ∃ (x : Module) (s : Session), m'.at? p = some x.fail ∧ x.state = .evaluating ∧
    x.finish s = ((x.fail, .error e), s') ∧ (x.starts s ∧ started = before ++ [p] ∨
      started = before ∧ ∃ program, x.kind = .source program ∧ (x.importScope program).run s = (.error e, s'))

/-- How the evaluation of the tree `m` ends. -/
def Ends (m m' : Module) (started : List Position) (s' : Session) : Except LoadError Namespace → Prop
  | .ok exports => m'.exports = some exports ∧ started = m.postorder ∧
      ∀ q ∈ m.postorder, Became m m' q .evaluated true
  | .error e => ∃ before p after, FailsAt m m' before p after started e s'

theorem at?_cons {i : Nat} {d : String × Module} (hd : m.dependencies[i]? = some d) (q : Position) :
    m.at? (i :: q) = d.2.at? q := by
  rw [at?, hd, Option.bind_some]

theorem Became.below {i : Nat} {d d' : String × Module} {q : Position} {state : ModuleState} {hasExports : Bool}
    (h : Became d.2 d'.2 q state hasExports) (hd : m.dependencies[i]? = some d)
    (hd' : m'.dependencies[i]? = some d') : Became m m' (i :: q) state hasExports := by
  obtain ⟨x, x', hx, hx', h⟩ := h
  exact ⟨x, x', (at?_cons hd q).trans hx, (at?_cons hd' q).trans hx', h⟩

/-- A tree has been evaluated completely. -/
def Evaluated (d d' : String × Module) : Prop := ∀ q ∈ d.2.postorder, Became d.2 d'.2 q .evaluated true

/-- How the evaluation of trees next to one another ends, the first of which is number `i`. -/
def AllEnd (i : Nat) (ds ds' : List (String × Module)) (started : List Position) (s' : Session) :
    Except LoadError Unit → Prop
  | .ok () => started = postorderFrom i ds ∧ List.Forall₂ Evaluated ds ds'
  | .error e => ∃ before d after before' d' below, ds = before ++ d :: after ∧ ds' = before' ++ d' :: after ∧
      List.Forall₂ Evaluated before before' ∧ Ends d.2 d'.2 below s' (.error e) ∧
      started = postorderFrom i before ++ below.map ((i + before.length) :: ·)

/-- Evaluating the tree `m` ends, wherever it is and whatever has been started before. -/
def AlwaysEnds (m : Module) : Prop := ∀ here n, ∃ started,
  (evaluateNoting here m n).2.started = n.started ++ started.map (here ++ ·) ∧
    Ends m (evaluateNoting here m n).1.1 started (evaluateNoting here m n).2.session
      (evaluateNoting here m n).1.2

/-- **One tree after the other:** either all are evaluated, or those before the first one that fails. -/
theorem evaluateAllNoting_ends {ds : List (String × Module)} (hds : ∀ d ∈ ds, AlwaysEnds d.2) (here : Position)
    (i : Nat) (n : Noted) : ∃ started,
      (evaluateAllNoting here i ds n).2.started = n.started ++ started.map (here ++ ·) ∧
        AllEnd i ds (evaluateAllNoting here i ds n).1.1 started (evaluateAllNoting here i ds n).2.session
          (evaluateAllNoting here i ds n).1.2 := by
  -- The number of the first tree and what has been noted so far change from tree to tree.
  induction ds generalizing i n with
  | nil => exact ⟨[], (List.append_nil _).symm, rfl, .nil⟩
  | cons d ds ih =>
    obtain ⟨specifier, m⟩ := d
    rw [evaluateAllNoting_cons]
    obtain ⟨first, hfirst, hends⟩ := hds (specifier, m) (List.mem_cons_self ..) (here ++ [i]) n
    generalize evaluateNoting (here ++ [i]) m n = ended at hfirst hends ⊢
    obtain ⟨⟨m', e | exports⟩, n₁⟩ := ended
    · refine ⟨first.map (i :: ·), ?_,
        [], (specifier, m), ds, [], (specifier, m'), first, rfl, rfl, .nil, hends, rfl⟩
      rw [hfirst, List.map_map]
      simp
    · obtain ⟨-, rfl, hevaluated⟩ := hends
      obtain ⟨others, hothers, hrest⟩ := ih (fun d hd => hds d (List.mem_cons_of_mem _ hd)) (i + 1) n₁
      refine ⟨m.postorder.map (i :: ·) ++ others, ?_, ?_⟩
      · dsimp only at hfirst ⊢
        rw [hothers, hfirst, List.map_append, List.map_map]
        simp
      · dsimp only
        generalize evaluateAllNoting here (i + 1) ds n₁ = ended at hrest ⊢
        obtain ⟨⟨ds', e | ⟨⟩⟩, n₂⟩ := ended
        · obtain ⟨before, d, after, before', d', below, rfl, rfl, hbefore, hfails, rfl⟩ := hrest
          refine ⟨(specifier, m) :: before, d, after, (specifier, m') :: before', d', below, rfl, rfl,
            .cons hevaluated hbefore, hfails, ?_⟩
          rw [postorderFrom, List.append_assoc, List.length_cons, Nat.add_right_comm, Nat.add_assoc]
        · obtain ⟨rfl, hall⟩ := hrest
          exact ⟨rfl, .cons hevaluated hall⟩

/-! ### One module -/

theorem starts_of_runExports {exports : Namespace} (h : m.runExports.run s = (.ok exports, s')) : m.starts s := by
  rw [runExports_eq] at h
  obtain ⟨entries, s₁, hbody, -⟩ := Load.run_bind_eq_ok.1 h
  unfold starts
  cases hkind : m.kind with
  | synthetic => rfl
  | source p =>
    rw [runBody_eq, hkind] at hbody
    replace hbody : (m.runProgram p).run s = (.ok entries, s₁) := hbody
    rw [runProgram_eq] at hbody
    obtain ⟨scope, s₂, hend, -⟩ := Load.run_bind_eq_ok.1 hbody
    rw [runToEnd_eq] at hend
    obtain ⟨scope', s₃, hscope, -⟩ := Load.run_bind_eq_ok.1 hend
    dsimp only
    rw [hscope]
    rfl

theorem runExports_of_not_starts (h : m.starts s = false) : ∃ p e s', m.kind = .source p ∧
    (m.importScope p).run s = (.error e, s') ∧ m.runExports.run s = (.error e, s') := by
  unfold starts at h
  cases hkind : m.kind with
  | synthetic => rw [hkind] at h; cases h
  | source p =>
    rw [hkind] at h
    cases hscope : (m.importScope p).run s with
    | mk result s' =>
      cases result with
      | ok scope =>
        simp only [hscope] at h
        cases h
      | error e =>
        have hbody : m.runBody.run s = (.error e, s') := by
          rw [runBody_eq, hkind]
          exact Load.run_bind_of_error (Load.run_bind_of_error hscope _) _
        exact ⟨p, e, s', rfl, hscope, Load.run_bind_of_error hbody _⟩

/-- Evaluated trees stay so below the module that comes next. -/
theorem became_of_forall₂ {before before' rest rest' : List (String × Module)}
    (h : List.Forall₂ Evaluated before before') (hm : m.dependencies = before ++ rest)
    (hm' : m'.dependencies = before' ++ rest') :
    ∀ q ∈ postorderFrom 0 before, Became m m' q .evaluated true := by
  intro q hq
  obtain ⟨i, d, r, hd, hr, rfl⟩ := mem_postorderFrom.1 hq
  obtain ⟨hi, rfl⟩ := List.getElem?_eq_some_iff.1 hd
  have hi' : i < before'.length := h.length_eq ▸ hi
  have hevaluated : Evaluated before[i] before'[i] := h.get hi hi'
  rw [Nat.zero_add]
  refine (hevaluated r hr).below ?_ ?_
  · rw [hm, List.getElem?_append_left hi, hd]
  · rw [hm', List.getElem?_append_left hi', List.getElem?_eq_getElem hi']

/-- A module fails where one of the modules below it does. -/
theorem FailsAt.below {url : Url} {context : ObjectId} {kind : ModuleKind}
    {before before' after : List (String × Module)} {d d' : String × Module} {b a started : List Position}
    {p : Position} {e : LoadError} (hbefore : List.Forall₂ Evaluated before before')
    (h : FailsAt d.2 d'.2 b p a started e s') :
    FailsAt (.node url context kind .linked none (before ++ d :: after))
      (.node url context kind .failed none (before' ++ d' :: after))
      (postorderFrom 0 before ++ b.map (before.length :: ·)) (before.length :: p)
      (a.map (before.length :: ·) ++ postorderFrom (before.length + 1) after ++ [[]])
      (postorderFrom 0 before ++ started.map (before.length :: ·)) e s' := by
  have hlength : before'.length = before.length := hbefore.length_eq.symm
  have hd : (before ++ d :: after)[before.length]? = some d := by simp
  have hd' : (before' ++ d' :: after)[before.length]? = some d' := by simp [← hlength]
  constructor
  case order =>
    rw [postorder, postorderFrom_append, postorderFrom, Nat.zero_add, h.order]
    simp
  case earlier =>
    intro q hq
    rcases List.mem_append.1 hq with hq | hq
    · exact became_of_forall₂ hbefore rfl rfl q hq
    · obtain ⟨r, hr, rfl⟩ := List.mem_map.1 hq
      exact (h.earlier r hr).below hd hd'
  case above =>
    intro q hq
    cases q with
    | nil => exact ⟨_, _, rfl, rfl, rfl, rfl, rfl, rfl⟩
    | cons i r =>
      obtain ⟨rfl, hr⟩ := List.cons_prefix_cons.1 hq
      exact (h.above r hr).below hd hd'
  case later =>
    intro q hq hnot
    -- What comes later is in the tree that fails, in a tree next to it, or the module itself, which is above.
    rcases List.mem_append.1 hq with hq | hq
    · rcases List.mem_append.1 hq with hq | hq
      · obtain ⟨r, hr, rfl⟩ := List.mem_map.1 hq
        have hlater := h.later r hr fun hprefix => hnot (List.cons_prefix_cons.2 ⟨rfl, hprefix⟩)
        exact (at?_cons hd' r).trans (hlater.trans (at?_cons hd r).symm)
      · obtain ⟨j, d₁, r, hd₁, -, rfl⟩ := mem_postorderFrom.1 hq
        have hnext : before.length + 1 + j - before.length = j + 1 := by omega
        have hle : before.length ≤ before.length + 1 + j := by omega
        refine (at?_cons (d := d₁) ?_ r).trans (at?_cons (d := d₁) ?_ r).symm
        · rw [dependencies, List.getElem?_append_right (hlength ▸ hle), hlength, hnext]
          exact hd₁
        · rw [dependencies, List.getElem?_append_right hle, hnext]
          exact hd₁
    · exact absurd (List.mem_singleton.1 hq ▸ List.nil_prefix) hnot
  case cause =>
    obtain ⟨x, s, hx, hstate, hfinish, hstarted⟩ := h.cause
    refine ⟨x, s, (at?_cons hd' p).trans hx, hstate, hfinish, ?_⟩
    rcases hstarted with ⟨hstarts, rfl⟩ | ⟨rfl, himports⟩
    · exact .inl ⟨hstarts, by simp⟩
    · exact .inr ⟨rfl, himports⟩

/-- A module ends as running it does, once everything below it is evaluated. -/
theorem ends_finish (url : Url) (context : ObjectId) (kind : ModuleKind) {ds ds' : List (String × Module)}
    (hall : List.Forall₂ Evaluated ds ds') (s : Session) :
    let x : Module := .node url context kind .evaluating none ds'
    Ends (.node url context kind .linked none ds) (x.finish s).1.1
      (postorderFrom 0 ds ++ if x.starts s then [[]] else []) (x.finish s).2 (x.finish s).1.2 := by
  intro x
  let m : Module := .node url context kind .linked none ds
  have hbelow : ∀ {m' : Module}, m'.dependencies = ds' →
      ∀ q ∈ postorderFrom 0 ds, Became m m' q .evaluated true := fun hm' =>
    became_of_forall₂ hall (List.append_nil ds).symm (hm'.trans (List.append_nil ds').symm)
  cases hrun : x.runExports.run s with
  | mk result s' =>
    cases result with
    | error e =>
      have hfinish : x.finish s = ((x.fail, .error e), s') := finish_of_error hrun
      rw [hfinish]
      refine ⟨postorderFrom 0 ds, [], [], ?_⟩
      constructor
      case order => rfl
      case earlier => exact hbelow rfl
      case above =>
        intro q hq
        obtain rfl := List.prefix_nil.1 hq
        exact ⟨m, x.fail, rfl, rfl, rfl, rfl, rfl, rfl⟩
      case later => exact fun q hq => absurd hq List.not_mem_nil
      case cause =>
        refine ⟨x, s, rfl, rfl, hfinish, ?_⟩
        cases hstarts : x.starts s with
        | true => exact .inl ⟨rfl, rfl⟩
        | false =>
          obtain ⟨p, e', s₁, hkind, hscope, herror⟩ := runExports_of_not_starts hstarts
          obtain ⟨rfl, rfl⟩ : e' = e ∧ s₁ = s' := by
            rw [hrun] at herror
            cases herror
            exact ⟨rfl, rfl⟩
          exact .inr ⟨List.append_nil _, p, hkind, hscope⟩
    | ok exports =>
      rw [finish_of_ok hrun, if_pos (starts_of_runExports hrun)]
      refine ⟨rfl, rfl, fun q hq => ?_⟩
      rcases List.mem_append.1 hq with hq | hq
      · exact hbelow rfl q hq
      · obtain rfl := List.mem_singleton.1 hq
        exact ⟨m, _, rfl, rfl, rfl, rfl, rfl, rfl⟩

/-- **The evaluation of a linked tree ends,** with all of it evaluated or at the first module that fails. -/
theorem LinkedTree.alwaysEnds (h : LinkedTree m) : AlwaysEnds m := by
  -- The induction is on the tree: the modules below end (`ih`), one after the other.
  induction h with
  | @node url context kind ds _ _ ih =>
    intro here n
    rw [evaluateNoting_linked]
    obtain ⟨started, hstarted, hall⟩ := evaluateAllNoting_ends ih here 0 n
    generalize evaluateAllNoting here 0 ds n = ended at hstarted hall ⊢
    obtain ⟨⟨ds', e | ⟨⟩⟩, n₁⟩ := ended
    · obtain ⟨before, d, after, before', d', below, rfl, rfl, hbefore, ⟨b, p, a, hfails⟩, hbelow⟩ := hall
      rw [Nat.zero_add] at hbelow
      subst hbelow
      exact ⟨_, hstarted, _, _, _, FailsAt.below hbefore hfails⟩
    · obtain ⟨rfl, hall⟩ := hall
      dsimp only at hstarted ⊢
      rw [finishIn_noting, hstarted]
      refine ⟨_, ?_, ends_finish url context kind hall n₁.session⟩
      split <;> simp

/-! ### The whole evaluation -/

/-- Evaluates a root once for each member of a list; before each time something else changes the session. -/
def evaluateAgain (m : Module) : List (Session → Session) →
    StateM Noted (Module × List (Except LoadError Namespace))
  | [] => return (m, [])
  | change :: changes => do
    modify fun n => { n with session := change n.session }
    let (m, result) ← evaluateNoting [] m
    let (m, results) ← evaluateAgain m changes
    return (m, result :: results)

/-- Evaluating again what is not linked changes nothing and starts nothing. -/
theorem evaluateAgain_of_ne_linked (h : m.state ≠ .linked) (changes : List (Session → Session)) (n : Noted) :
    evaluateAgain m changes n =
      ((m, changes.map fun _ => .error (.state ⟨m.url, m.state, .evaluating⟩)),
        ⟨changes.foldl (fun s change => change s) n.session, n.started⟩) := by
  induction changes generalizing n with
  | nil => rfl
  | cons change changes ih =>
    have hfirst := evaluateNoting_of_ne_linked h [] ⟨change n.session, n.started⟩
    have hrest := ih ⟨change n.session, n.started⟩
    have hrun : evaluateAgain m (change :: changes) n =
        let ended := evaluateNoting [] m ⟨change n.session, n.started⟩
        let others := evaluateAgain ended.1.1 changes ended.2
        ((others.1.1, ended.1.2 :: others.1.2), others.2) := rfl
    rw [hrun, hfirst]
    dsimp only
    rw [hrest]
    rfl

theorem Ends.prefix_postorder {started : List Position} {result : Except LoadError Namespace}
    (h : Ends m m' started s' result) : started <+: m.postorder := by
  cases result with
  | ok exports => exact h.2.1 ▸ List.prefix_rfl
  | error e =>
    obtain ⟨before, p, after, hfails⟩ := h
    rw [hfails.order]
    obtain ⟨x, s, -, -, -, ⟨-, rfl⟩ | ⟨rfl, -⟩⟩ := hfails.cause
    · exact ⟨after, by simp⟩
    · exact List.prefix_append ..

/-- After an evaluation the root is not linked any more. -/
theorem Ends.root {started : List Position} {result : Except LoadError Namespace}
    (h : Ends m m' started s' result) : m'.url = m.url ∧ m'.state ≠ .linked := by
  obtain ⟨state, hasExports, hstate, x, x', hx, hx', hurl, -, heq, -⟩ :
      ∃ state hasExports, state ≠ ModuleState.linked ∧ Became m m' [] state hasExports := by
    cases result with
    | ok exports => exact ⟨.evaluated, true, nofun, h.2.2 [] (mem_postorder.2 ⟨m, rfl⟩)⟩
    | error e =>
      obtain ⟨before, p, after, hfails⟩ := h
      exact ⟨.failed, false, nofun, hfails.above [] List.nil_prefix⟩
  cases hx
  cases hx'
  exact ⟨hurl, heq ▸ hstate⟩

/-- **Modules are evaluated in order, each at most once.**  When a linked tree is evaluated, the bodies start in
the order of `postorder`, and none starts twice, however often the root is evaluated again.  If the evaluation
succeeds, all of them have started and everything is evaluated.  If it fails, it does so because of one module:
those before it are evaluated, it has failed and so have those above it, and all others are still linked.
Evaluating the root again is refused and changes nothing. -/
theorem evaluation_order (h : LinkedTree m) (s : Session) (changes : List (Session → Session)) :
    ∃ m' result s' started, m.evaluate s = ((m', result), s') ∧
      evaluateNoting [] m ⟨s, []⟩ = ((m', result), ⟨s', started⟩) ∧
      started <+: m.postorder ∧ started.Nodup ∧
      (∀ exports, result = .ok exports → m'.exports = some exports ∧ started = m.postorder ∧
        ∀ q ∈ m.postorder, Became m m' q .evaluated true) ∧
      (∀ e, result = .error e → ∃ before p after, FailsAt m m' before p after started e s' ∧
        ∀ q ∈ after, ¬ q <+: p → Became m m' q .linked false) ∧
      evaluateAgain m' changes ⟨s', started⟩ =
        ((m', changes.map fun _ => .error (.state ⟨m.url, m'.state, .evaluating⟩)),
          ⟨changes.foldl (fun s change => change s) s', started⟩) := by
  obtain ⟨started, hstarted, hends⟩ := h.alwaysEnds [] ⟨s, []⟩
  have herase := evaluateNoting_erase [] m ⟨s, []⟩
  generalize evaluateNoting [] m ⟨s, []⟩ = ended at hstarted hends herase ⊢
  obtain ⟨⟨m', result⟩, ⟨s', noted⟩⟩ := ended
  obtain rfl : noted = started := by simpa using hstarted
  obtain ⟨hurl, hstate⟩ := hends.root
  have hprefix := hends.prefix_postorder
  have hnodup := (nodup_postorder m).sublist hprefix.sublist
  refine ⟨m', result, s', noted, herase.symm, rfl, hprefix, hnodup, ?_, ?_, ?_⟩
  · rintro exports rfl
    exact hends
  · rintro e rfl
    obtain ⟨before, p, after, hfails⟩ := hends
    refine ⟨before, p, after, hfails, fun q hq hnot => ?_⟩
    obtain ⟨x, hx⟩ : ∃ x, m.at? q = some x := mem_postorder.1 (by rw [hfails.order]; simp [hq])
    have hlinked := h.at? hx
    refine ⟨x, x, hx, (hfails.later q hq hnot).trans hx, rfl, rfl, hlinked.state, ?_⟩
    rw [hlinked.exports]
    rfl
  · rw [← hurl]
    exact evaluateAgain_of_ne_linked hstate changes _

/-- A module above two others, the second of which throws. -/
theorem evaluation_order_throwing :
    let url : Url := ⟨"file", none, .segments ["m.mjs"], none, none⟩
    let first : Module := .node url 0 (.source ⟨[]⟩) .linked none []
    let second : Module := .node url 0 (.source ⟨[.statement (.throw .null)]⟩) .linked none []
    let p : Program := ⟨[.importing ⟨"a", none, .some []⟩, .importing ⟨"b", none, .some []⟩]⟩
    let m : Module := .node url 0 (.source p) .linked none [("a", first), ("b", second)]
    let s : Session := ⟨⟨.empty, [], [], [], 0⟩, .empty ⟨none, "/tmp", none, [], 1, "linux", "x64"⟩⟩
    LinkedTree m ∧ ∃ m' e s' before q after, m.evaluate s = ((m', .error e), s') ∧
      FailsAt m m' before q after [[0], [1]] e s' := by
  intro url first second p m s
  have hm : LinkedTree m := by
    refine .node rfl fun d hd => ?_
    obtain rfl | rfl : d = ("a", first) ∨ d = ("b", second) := by simpa using hd
    · exact .node rfl fun d hd => absurd hd List.not_mem_nil
    · exact .node rfl fun d hd => absurd hd List.not_mem_nil
  have hstarted : (evaluateNoting [] m ⟨s, []⟩).2.started = [[0], [1]] := by decide +kernel
  have hfailed : (m.evaluate s).1.2.isOk = false := by decide +kernel
  obtain ⟨m', result, s', started, hrun, hnoting, hprefix, -, -, herror, -⟩ := evaluation_order hm s []
  rw [hnoting] at hstarted
  rw [hrun] at hfailed
  obtain rfl : started = [[0], [1]] := hstarted
  cases result with
  | ok exports => cases hfailed
  | error e =>
    obtain ⟨before, q, after, hfails, -⟩ := herror e rfl
    exact ⟨hm, m', e, s', before, q, after, hrun, hfails⟩

end Module
end ScriptImport
