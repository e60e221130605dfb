/-
# Linking decides soundness

In a world that does not change, linking a module walks the ways down from it.  On a way no URL comes twice,
so a way is not longer than there are URLs below the root, and linking ends (`Linker.linkBelow_run`): either
with the tree of the modules, when there is no fault below, or with the first fault.  As a graph is sound if
it has no fault, linking succeeds exactly for sound graphs (`Linker.link_decides`).
-/

import ScriptImport.Module.Link
import ScriptImport.Proofs.Fetch.History
import ScriptImport.Proofs.Module.Graph
import ScriptImport.Proofs.Module.Network

namespace ScriptImport

open Builder ModuleGraph

/-- A module is linked, and so is everything below it: what it requests, in order, at the URLs that the
specifiers name, all with one context. -/
inductive IsLinked (g : ModuleGraph) (context : Script.ObjectId) : Module → Prop where
  | node {url : Url} {kind : ModuleKind} {exports : Option Script.Namespace}
      {dependencies : List (String × Module)} (hkind : g.made url = .ok kind)
      (hspecifiers : dependencies.map (·.1) = kind.requests)
      (hurls : ∀ d ∈ dependencies, g.resolve url d.1 = .ok d.2.url)
      (hdependencies : ∀ d ∈ dependencies, IsLinked g context d.2) :
      IsLinked g context (.node url context kind .linked exports dependencies)

namespace Linker

/-- The graph that linking a root sees; the root itself is there already. -/
def graph (l : Linker) (texts : Texts) (scripts : Script.Store) (root : Module) : ModuleGraph where
  resolve url s := l.resolver.resolve s (some url)
  made := Function.update (l.builder.made texts scripts) root.url (.ok root.kind)

variable {l : Linker} {texts : Texts} {webs : Set Web} {scripts : Script.Store} {root m : Module}
  {g : ModuleGraph} {way : List Url} {s : Session}

theorem graph_made_root (l : Linker) (texts : Texts) (scripts : Script.Store) (root : Module) :
    (l.graph texts scripts root).made root.url = .ok root.kind := Function.update_self ..

theorem requests_eq (h : g.made m.url = .ok m.kind) : g.requests m.url = m.requests := by
  rw [ModuleGraph.requests, h]
  cases hkind : m.kind <;> simp [Module.requests, ModuleKind.requests, hkind]

/-- What linking a module at the end of a way leads to: a tree, if there is no fault, or the first fault. -/
def Ends (g : ModuleGraph) (way : List Url) (m : Module) (result : Except LoadError Module) : Prop :=
  (∃ t, result = .ok t ∧ t.url = m.url ∧ IsLinked g m.context t ∧ ∀ p e, ¬ g.FaultAt way m.url p e) ∨
    ∃ p e, result = .error e ∧ g.FirstFault way m.url p e

/-- A module below the one at `url`, for a specifier that leads to no fault. -/
structure Below (g : ModuleGraph) (way : List Url) (url : Url) (context : Script.ObjectId)
    (specifier : String) (d : String × Module) : Prop where
  name : d.1 = specifier
  resolved : g.resolve url specifier = .ok d.2.url
  linked : IsLinked g context d.2
  no_fault : ∀ p e, ¬ g.Fault way url specifier p e

/-- The first fault behind a specifier of the module at `url`. -/
def FailsFirst (g : ModuleGraph) (way : List Url) (url : Url) (specifier : String) (e : LoadError) : Prop :=
  ∃ p, g.Fault way url specifier p e ∧ ∀ p' e', g.Fault way url specifier p' e' → Precedes p p'

/-- A fault at once is the first one. -/
theorem failsFirst_of_fault {url : Url} {specifier : String} {e : LoadError}
    (h : g.Fault way url specifier [] e) : FailsFirst g way url specifier e :=
  ⟨[], h, fun p' _ _ => precedes_nil p'⟩

/-- **Following a specifier** ends as linking the module does that it names. -/
theorem dependency_run (hg : g = l.graph texts scripts root)
    (hfixed : Fixed l.builder.fetcher texts {u | g.Reaches root.url u} webs)
    (hway : g.Way root.url way m.url) (hs : InWorld webs scripts s) {link : Module → Load Module}
    {specifier : String} (hspecifier : specifier ∈ g.requests m.url)
    (hlink : ∀ v kind s, v ∉ way → g.resolve m.url specifier = .ok v → g.made v = .ok kind →
      InWorld webs scripts s → ∃ s' result, InWorld webs scripts s' ∧
        (link (.new v kind m.context)).run s = (result, s') ∧
        Ends g (way ++ [v]) (.new v kind m.context) result) :
    ∃ s', InWorld webs scripts s' ∧
      ((∃ t, (l.dependency link m way specifier).run s = (.ok t, s') ∧
        Below g way m.url m.context specifier (specifier, t)) ∨
      ∃ e, (l.dependency link m way specifier).run s = (.error e, s') ∧
        FailsFirst g way m.url specifier e) := by
  have hgraph : g.resolve m.url specifier = l.resolver.resolve specifier (some m.url) := by rw [hg]; rfl
  unfold dependency
  rw [← hgraph]
  cases hresolve : g.resolve m.url specifier with
  | error e => exact ⟨s, hs, .inr ⟨_, rfl, failsFirst_of_fault (.unresolved hresolve)⟩⟩
  | ok v =>
    by_cases hv : v ∈ way
    · simp only [if_pos hv]
      exact ⟨s, hs, .inr ⟨_, rfl, failsFirst_of_fault (.circular hresolve hv)⟩⟩
    simp only [if_neg hv]
    obtain ⟨s₁, hs₁, hlog⟩ := hs.log hfixed (.linking m.url specifier v)
    have hreaches : g.Reaches root.url v :=
      (hway.below m.url hway.mem).tail ⟨specifier, hspecifier, hresolve⟩
    obtain ⟨s₂, hs₂, hbuild⟩ := build_run hfixed hs₁ hreaches m.context
    have hne : v ≠ root.url := fun h => hv (h ▸ hway.root_mem)
    have hmade : g.made v = l.builder.made texts scripts v := by rw [hg]; exact Function.update_of_ne hne ..
    rw [Load.run_bind_of_ok hlog]
    rw [← hmade] at hbuild
    cases hkind : g.made v with
    | error e =>
      rw [hkind] at hbuild
      exact ⟨s₂, hs₂, .inr ⟨e, Load.run_bind_of_error hbuild _,
        failsFirst_of_fault (.unbuilt hresolve hv hkind)⟩⟩
    | ok kind =>
      rw [hkind] at hbuild
      rw [Load.run_bind_of_ok hbuild]
      obtain ⟨s₃, result, hs₃, hrun, hends⟩ := hlink v kind s₂ hv hresolve hkind hs₂
      have hfaults := fun p e => fault_iff (p := p) (e := e) hresolve hv hkind
      refine ⟨s₃, hs₃, ?_⟩
      rcases hends with ⟨t, rfl, hurl, hlinked, hnone⟩ | ⟨p, e, rfl, hfirst⟩
      · refine .inl ⟨t, hrun, rfl, ?_, hlinked, fun p e h => hnone p e ((hfaults p e).1 h)⟩
        exact hresolve.trans (congrArg _ hurl.symm)
      · exact .inr ⟨e, hrun, p, (hfaults p e).2 hfirst.fault,
          fun p' e' h => hfirst.least p' e' ((hfaults p' e').1 h)⟩

theorem exists_below {url : Url} {context : Script.ObjectId} {specifiers : List String}
    {ds : List (String × Module)} (h : List.Forall₂ (Below g way url context) specifiers ds) :
    ds.map (·.1) = specifiers ∧ (∀ d ∈ ds, Below g way url context d.1 d) ∧
      ∀ specifier ∈ specifiers, ∃ d, Below g way url context specifier d := by
  induction h with
  | nil => simp
  | @cons specifier d specifiers ds hd _ ih =>
    obtain ⟨hmap, hds, hspecifiers⟩ := ih
    refine ⟨by rw [List.map_cons, hmap, hd.name], ?_, ?_⟩
    · rw [List.forall_mem_cons]
      exact ⟨hd.name.symm ▸ hd, hds⟩
    · rw [List.forall_mem_cons]
      exact ⟨⟨d, hd⟩, hspecifiers⟩

/-- When everything below a module is linked, so is the module. -/
theorem ends_of_below {ds : List (String × Module)} (hmade : g.made m.url = .ok m.kind)
    (h : List.Forall₂ (Below g way m.url m.context) m.requests ds) :
    Ends g way m (.ok (.node m.url m.context m.kind .linked m.exports ds)) := by
  obtain ⟨hmap, hds, hspecifiers⟩ := exists_below h
  rw [← requests_eq hmade] at hmap hspecifiers
  refine .inl ⟨_, rfl, rfl, .node hmade ?_ (fun d hd => (hds d hd).resolved) (fun d hd => (hds d hd).linked), ?_⟩
  · rw [hmap, ModuleGraph.requests, hmade]
  · rintro p e ⟨i, specifier, q, -, hi, hq⟩
    obtain ⟨d, hd⟩ := hspecifiers specifier (List.mem_of_getElem? hi)
    exact hd.no_fault q e hq

/-- **Linking below a way ends:** with a tree, if there is no fault, or with the first fault. -/
theorem linkBelow_run (hg : g = l.graph texts scripts root)
    (hfixed : Fixed l.builder.fetcher texts {u | g.Reaches root.url u} webs)
    (hfinite : {u | g.Reaches root.url u}.Finite) (depth : Nat) {above : List Url} {m : Module}
    {s : Session} (hway : g.Way root.url (above ++ [m.url]) m.url) (hstate : m.state = .unlinked)
    (hmade : g.made m.url = .ok m.kind)
    (hdepth : {u | g.Reaches root.url u}.ncard ≤ above.length + depth) (hs : InWorld webs scripts s) :
    ∃ s' result, InWorld webs scripts s' ∧ (l.linkBelow depth above m).run s = (result, s') ∧
      Ends g (above ++ [m.url]) m result := by
  induction depth generalizing above m s with
  | zero =>
    have hlength := hway.length_le hfinite
    rw [List.length_append, List.length_singleton] at hlength
    omega
  | succ depth ih =>
    obtain ⟨url, context, kind, state, exports, before⟩ := m
    obtain rfl : state = .unlinked := hstate
    let m : Module := .node url context kind .unlinked exports before
    let m' : Module := .node url context kind .linking exports before
    have hlinking : (Load.ofState (m.transition .linking)).run s = (.ok m', s) := rfl
    have hrequests : g.requests url = m'.requests := requests_eq hmade
    let follow (specifier : String) : Load (String × Module) := do
      return (specifier, ← l.dependency (l.linkBelow depth (above ++ [url])) m' (above ++ [url]) specifier)
    have hfollow : ∀ specifier ∈ m'.requests, ∀ s, InWorld webs scripts s → ∃ s', InWorld webs scripts s' ∧
        ((∃ d, (follow specifier).run s = (.ok d, s') ∧
            Below g (above ++ [url]) url context specifier d) ∨
          ∃ e, (follow specifier).run s = (.error e, s') ∧
            FailsFirst g (above ++ [url]) url specifier e) := by
      intro specifier hspecifier s hs
      rw [← hrequests] at hspecifier
      obtain ⟨s', hs', ⟨t, hrun, ht⟩ | ⟨e, hrun, he⟩⟩ :=
        dependency_run hg hfixed (m := m') hway hs hspecifier fun v kind' s hv hresolve hkind hs =>
          ih (m := .new v kind' context) (hway.push ⟨specifier, hspecifier, hresolve⟩ hv) rfl hkind
            (by rw [List.length_append, List.length_singleton]; omega) hs
      · exact ⟨s', hs', .inl ⟨(specifier, t), Load.run_bind_of_ok hrun _, ht⟩⟩
      · exact ⟨s', hs', .inr ⟨e, Load.run_bind_of_error hrun _, he⟩⟩
    unfold linkBelow
    rw [Load.run_bind_of_ok hlinking]
    obtain ⟨s', hs', ⟨ds, hrun, hall⟩ | ⟨i, specifier, e, hrun, hi, ⟨p, hp, hleast⟩, hbefore⟩⟩ :=
      Load.run_mapM hfollow hs
    · exact ⟨s', _, hs', Load.run_bind_of_ok hrun _, ends_of_below (m := m) hmade hall⟩
    · refine ⟨s', _, hs', Load.run_bind_of_error hrun _, .inr ⟨i :: p, e, rfl, ?_⟩⟩
      rw [← hrequests] at hi hbefore
      exact firstFault_of_least hi hp hleast fun j hj specifier' hj' q e h => by
        obtain ⟨d, hd⟩ := hbefore j hj specifier' hj'
        exact hd.no_fault q e h

theorem graph_made_ne_error {e : LoadError} (he : (∃ chain, e = .circular chain) ∨ ∃ u, e = .endless u)
    (v : Url) : (l.graph texts scripts root).made v ≠ .error e := by
  have hmade : (l.graph texts scripts root).made
      = Function.update (l.builder.made texts scripts) root.url (.ok root.kind) := rfl
  rw [hmade]
  by_cases hv : v = root.url
  · rw [hv, Function.update_self]
    simp
  · rw [Function.update_of_ne hv]
    exact made_ne_error he

/-- What linking a root comes to, by what linking below it comes to. -/
theorem link_run {result : Except LoadError Module} {s' : Session} (hroot : root.state = .unlinked)
    (h : (l.linkBelow l.depth [] root).run s = (result, s')) :
    l.link root s = (match result with
      | .ok linked => (linked, .ok ())
      | .error e => ((root.withState .linking).fail, .error e), s') := by
  obtain ⟨url, context, kind, state, exports, before⟩ := root
  obtain rfl : state = .unlinked := hroot
  have hlinking : Module.transition (.node url context kind .unlinked exports before) .linking
      = .ok (.node url context kind .linking exports before) := rfl
  unfold link
  rw [hlinking]
  simp only [bind, StateT.bind, h]
  cases result <;> rfl

theorem link_eq {result : Except LoadError Module} {s' : Session} (hroot : root.state = .unlinked)
    (h : (l.linkBelow l.depth [] root).run s = (result, s')) :
    (l.link root s).1 = match result with
      | .ok linked => (linked, .ok ())
      | .error e => ((root.withState .linking).fail, .error e) := by
  rw [link_run hroot h]

/-- **Linking decides whether the graph below a module is sound.**  In a world that does not change, with
finitely many URLs below an unlinked root, linking ends; it succeeds exactly if all specifiers below the root
name URLs, all URLs can be built and none is below itself, and then everything is linked.  Otherwise the error
is the fault with the least position, and if that is a circle, it leads from the root back into itself. -/
theorem link_decides (l : Linker)
    (hfixed : Fixed l.builder.fetcher texts {u | (l.graph texts s.scripts root).Reaches root.url u} webs)
    (hs : s.web ∈ webs) (hroot : root.state = .unlinked)
    (hfinite : {u | (l.graph texts s.scripts root).Reaches root.url u}.Finite) :
    ∀ depth ≥ {u | (l.graph texts s.scripts root).Reaches root.url u}.ncard,
      let g := l.graph texts s.scripts root
      let result := (Linker.link { l with depth } root s).1
      (result.2 = .ok () ↔ g.Sound root.url) ∧
      (result.2 = .ok () → result.1.url = root.url ∧ IsLinked g root.context result.1) ∧
      (∀ chain, result.2 = .error (.circular chain) → g.Circle root.url chain) ∧
      ∀ e, result.2 = .error e → (∃ p, g.FirstFault [root.url] root.url p e) ∧ ∀ u, e ≠ .endless u := by
  intro depth hdepth g result
  have hmade : g.made root.url = .ok root.kind := l.graph_made_root texts s.scripts root
  have hsound := sound_iff_no_fault ⟨_, hmade⟩
  have hway : g.Way root.url ([] ++ [root.url]) root.url := way_root g root.url
  have hbound : {u | g.Reaches root.url u}.ncard ≤ ([] : List Url).length + depth := by
    rw [List.length_nil, Nat.zero_add]
    exact hdepth
  obtain ⟨s', below, -, hrun, hends⟩ :=
    linkBelow_run (l := { l with depth }) rfl hfixed hfinite depth hway hroot hmade hbound ⟨hs, rfl⟩
  have hresult : result = _ := link_eq (l := { l with depth }) hroot hrun
  rw [hresult]
  rcases hends with ⟨t, rfl, hurl, hlinked, hnone⟩ | ⟨p, e, rfl, hfirst⟩
  · refine ⟨iff_of_true rfl (hsound.2 hnone), fun _ => ⟨hurl, hlinked⟩, fun chain h => ?_, fun e h => ?_⟩ <;>
      exact absurd h (by simp)
  · obtain ⟨i, specifier, q, -, hi, hq⟩ := hfirst.fault
    refine ⟨iff_of_false (by simp) fun h => hsound.1 h p e hfirst.fault, fun h => absurd h (by simp), ?_, ?_⟩
    · rintro chain ⟨⟩
      exact hq.circle hway (List.mem_of_getElem? hi) fun v chain => graph_made_ne_error (.inl ⟨chain, rfl⟩) v
    · rintro _ ⟨⟩
      refine ⟨⟨p, hfirst⟩, fun u hu => ?_⟩
      subst hu
      rcases hq.error_cases with ⟨r, h⟩ | ⟨chain, h⟩ | ⟨v, h⟩
      · exact absurd h (by simp)
      · exact absurd h (by simp)
      · exact graph_made_ne_error (.inr ⟨u, rfl⟩) v h

/-- A module that imports another one from the network. -/
theorem link_decides_import :
    let a : Url := ⟨"http", some ⟨"", none, "a", none⟩, .segments [""], none, none⟩
    let answers : String → Except String Response := fun url =>
      if url = "http://b/" then .ok (Response.plain 200 "export default 1;") else .error "unreachable"
    let x : Fetcher := ⟨⟨"/cache"⟩, fun r => answers r.url.text, false⟩
    let l : Linker := { resolver := ⟨"http://a/", [], .empty, a⟩, builder := ⟨x, .empty⟩ }
    let root : Module := .ofProgram a ⟨[.importing ⟨"http://b/", some "b", .some []⟩]⟩ 0
    let s : Session := ⟨⟨.empty, [], [], [], 0⟩, .empty ⟨none, "/tmp", none, [], 1, "linux", "x64"⟩⟩
    let g := l.graph (textOf answers) s.scripts root
    (Linker.link { l with depth := 2 } root s).1.2 = .ok () ∧
      IsLinked g 0 (Linker.link { l with depth := 2 } root s).1.1 := by
  intro a answers x l root s g
  let b : Url := ⟨"http", some ⟨"", none, "b", none⟩, .segments [""], none, none⟩
  have hleaf : g.requests b = [] := by decide +kernel
  obtain ⟨kind, hkind⟩ : ∃ kind, g.made b = .ok kind := by
    have hmade : (g.made b).isOk := by decide +kernel
    cases h : g.made b with
    | ok kind => exact ⟨kind, rfl⟩
    | error e => rw [h] at hmade; exact absurd hmade (by simp [Except.isOk, Except.toBool])
  have hresolve : g.resolve a "http://b/" = .ok b := by decide +kernel
  have hrequests : g.requests a = ["http://b/"] :=
    requests_eq (l.graph_made_root (textOf answers) s.scripts root)
  have hedge : ∀ u v, g.Edge u v → u = a ∨ u = b → u = a ∧ v = b := by
    rintro u v ⟨specifier, hspecifier, hv⟩ (rfl | rfl)
    · rw [hrequests, List.mem_singleton] at hspecifier
      rw [hspecifier, hresolve] at hv
      exact ⟨rfl, (Except.ok.inj hv).symm⟩
    · rw [hleaf] at hspecifier
      exact absurd hspecifier List.not_mem_nil
  have hbelow : ∀ u, g.Reaches a u → u = a ∨ u = b := by
    intro u hu
    induction hu with
    | refl => exact .inl rfl
    | tail _ h ih => exact .inr (hedge _ _ h ih).2
  have hsound : g.Sound a := by
    refine ⟨fun u hu specifier hspecifier => ?_, fun u hu => ?_, fun u hu hcircle => ?_⟩
    · rcases hbelow u hu with rfl | rfl
      · rw [hrequests, List.mem_singleton] at hspecifier
        exact ⟨b, hspecifier ▸ hresolve⟩
      · rw [hleaf] at hspecifier
        exact absurd hspecifier List.not_mem_nil
    · rcases hbelow u hu with rfl | rfl
      · exact ⟨_, l.graph_made_root (textOf answers) s.scripts root⟩
      · exact ⟨kind, hkind⟩
    · obtain ⟨v, huv, hvu⟩ := Relation.TransGen.head'_iff.1 hcircle
      obtain ⟨rfl, rfl⟩ := hedge u v huv (hbelow u hu)
      obtain heq | ⟨v, hbv, -⟩ := hvu.cases_head
      · exact absurd heq (by decide)
      · exact absurd (hedge _ v hbv (.inr rfl)).1 (by decide)
  have htexts : Url.text '' {u | g.Reaches a u} ⊆ {"http://a/", "http://b/"} := by
    rintro _ ⟨u, hu, rfl⟩
    rcases hbelow u hu with rfl | rfl
    · exact .inl (by decide +kernel)
    · exact .inr (by decide +kernel)
  have hanswers : Answers x answers {u | g.Reaches a u} := {
    scheme := fun u hu => by rcases hbelow u hu with rfl | rfl <;> exact fun h => absurd h (by decide)
    transport := fun _ _ _ => rfl
    changed := fun u _ r hr => by
      unfold answers at hr
      split at hr
      · obtain rfl := Except.ok.inj hr
        decide
      · exact absurd hr (by simp)
    digests := fresh_empty.digests.mono htexts }
  have hholds : x.cache.Holds (Url.text '' {u | g.Reaches a u}) s.web.files fun _ => none :=
    Cache.holds_of_isEmpty fresh_empty.empty ⟨a.text, a, .refl, rfl⟩ fun url hurl =>
      fresh_empty.stores url (htexts hurl)
  have hsteady : Steady x.cache answers {u | g.Reaches a u} s.web :=
    ⟨⟨_, hholds, by simp⟩, by simp [s], by decide⟩
  have hset : {u | g.Reaches a u} ⊆ {a, b} := hbelow
  have hcard : {u | g.Reaches a u}.ncard ≤ 2 :=
    (Set.ncard_le_ncard hset).trans (Set.ncard_pair (by decide)).le
  obtain ⟨hok, hlinked, -⟩ := link_decides l (fixed_network hanswers) hsteady rfl
    ((Set.toFinite {a, b}).subset hset) 2 hcard
  exact ⟨hok.2 hsound, (hlinked (hok.2 hsound)).2⟩

end Linker
end ScriptImport
