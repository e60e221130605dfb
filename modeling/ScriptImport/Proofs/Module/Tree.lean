/-
# Trees of modules

A module that is linked has a tree of modules below it.  A place in the tree is a `Position`, the way down to it
from the root, and `postorder` lists all positions once (`mem_postorder`, `nodup_postorder`): those below a module
in the order of its requests, and then its own.  A
`LinkedTree` is a tree in which everything is linked and nothing
has been evaluated; that is what linking makes (`Linker.linkedTree_of_link`).
-/

import Mathlib.Data.List.Forall2
import Mathlib.Data.List.Nodup
import ScriptImport.Module.Link
import ScriptImport.Proofs.Module.Load

namespace ScriptImport
namespace Module

/-- A place in a tree of modules: which of the modules below to go down to, again and again. -/
abbrev Position := List Nat

/-- The module at a position of the tree below a module. -/
def at? : Module → Position → Option Module
  | m, [] => some m
  | m, i :: q => m.dependencies[i]?.bind fun d => at? d.2 q

mutual

/-- All positions of a tree: those below the module, then that of the module itself. -/
def postorder : Module → List Position
  | node _ _ _ _ _ dependencies => postorderFrom 0 dependencies ++ [[]]

/-- The positions in trees next to one another, the first of which is number `i`. -/
def postorderFrom (i : Nat) : List (String × Module) → List Position
  | [] => []
  | (_, m) :: rest => (postorder m).map (i :: ·) ++ postorderFrom (i + 1) rest

end

/-- A module is linked, and so is everything below it, which is what it requests, in the order of the requests.
Nothing has been evaluated yet. -/
inductive LinkedTree : Module → Prop where
  | node {url : Url} {context : Script.ObjectId} {kind : ModuleKind} {dependencies : List (String × Module)}
      (hspecifiers : dependencies.map (·.1) = (Module.node url context kind .linked none dependencies).requests)
      (hdependencies : ∀ d ∈ dependencies, LinkedTree d.2) :
      LinkedTree (.node url context kind .linked none dependencies)

variable {m x : Module} {ds : List (String × Module)} {q : Position}

theorem LinkedTree.state (h : LinkedTree m) : m.state = .linked := by
  cases h
  rfl

theorem LinkedTree.exports (h : LinkedTree m) : m.exports = none := by
  cases h
  rfl

/-- Every part of a linked tree is a linked tree. -/
theorem LinkedTree.at? (h : LinkedTree m) (hx : m.at? q = some x) : LinkedTree x := by
  induction q generalizing m with
  | nil => exact Option.some.inj hx ▸ h
  | cons i q ih =>
    obtain ⟨d, hd, hbelow⟩ := Option.bind_eq_some_iff.1 hx
    cases h with
    | node _ hdependencies => exact ih (hdependencies d (List.mem_of_getElem? hd)) hbelow

theorem postorderFrom_append (i : Nat) (ds₁ ds₂ : List (String × Module)) :
    postorderFrom i (ds₁ ++ ds₂) = postorderFrom i ds₁ ++ postorderFrom (i + ds₁.length) ds₂ := by
  induction ds₁ generalizing i with
  | nil => rfl
  | cons d ds₁ ih =>
    rw [List.cons_append, postorderFrom, postorderFrom, ih, List.append_assoc, List.length_cons,
      Nat.add_right_comm, Nat.add_assoc]

theorem mem_postorderFrom {i : Nat} : q ∈ postorderFrom i ds ↔
    ∃ j d r, ds[j]? = some d ∧ r ∈ d.2.postorder ∧ q = (i + j) :: r := by
  induction ds generalizing i with
  | nil => simp [postorderFrom]
  | cons d ds ih =>
    rw [postorderFrom, List.mem_append, List.mem_map, ih]
    constructor
    · rintro (⟨r, hr, rfl⟩ | ⟨j, d', r, hd', hr, rfl⟩)
      · exact ⟨0, d, r, rfl, hr, rfl⟩
      · exact ⟨j + 1, d', r, hd', hr, by rw [Nat.add_assoc, Nat.add_comm 1 j]⟩
    · rintro ⟨j, d', r, hd', hr, rfl⟩
      cases j with
      | zero => exact .inl ⟨r, Option.some.inj hd' ▸ hr, rfl⟩
      | succ j => exact .inr ⟨j, d', r, hd', hr, by rw [Nat.add_assoc, Nat.add_comm 1 j]⟩

/-- **The positions in order are all positions of the tree.** -/
theorem mem_postorder : q ∈ m.postorder ↔ ∃ x, m.at? q = some x := by
  induction q generalizing m with
  | nil =>
    cases m
    simp [postorder, at?]
  | cons i q ih =>
    cases m with
    | node url context kind state exports ds =>
      rw [postorder, List.mem_append, mem_postorderFrom]
      constructor
      · rintro (⟨j, d, r, hd, hr, heq⟩ | h)
        · obtain ⟨rfl, rfl⟩ := List.cons.inj heq
          obtain ⟨x, hx⟩ := ih.1 hr
          refine ⟨x, Option.bind_eq_some_iff.2 ⟨d, ?_, hx⟩⟩
          rwa [Nat.zero_add]
        · exact absurd (List.mem_singleton.1 h) (List.cons_ne_nil i q)
      · rintro ⟨x, hx⟩
        obtain ⟨d, hd, hx⟩ := Option.bind_eq_some_iff.1 hx
        exact .inl ⟨i, d, q, hd, ih.2 ⟨x, hx⟩, by rw [Nat.zero_add]⟩

mutual

/-- **No position comes twice.** -/
theorem nodup_postorder : ∀ m : Module, m.postorder.Nodup
  | node _ _ _ _ _ ds => by
    rw [postorder, List.nodup_append]
    refine ⟨nodup_postorderFrom 0 ds, List.nodup_singleton _, ?_⟩
    rintro q hq _ hroot rfl
    obtain ⟨j, d, r, -, -, heq⟩ := mem_postorderFrom.1 hq
    rw [List.mem_singleton.1 hroot] at heq
    cases heq

theorem nodup_postorderFrom : ∀ (i : Nat) (ds : List (String × Module)), (postorderFrom i ds).Nodup
  | _, [] => List.nodup_nil
  | i, (_, m) :: rest => by
    rw [postorderFrom, List.nodup_append]
    refine ⟨(nodup_postorder m).map fun _ _ h => (List.cons.inj h).2, nodup_postorderFrom (i + 1) rest, ?_⟩
    rintro q hq _ hrest rfl
    obtain ⟨r, -, rfl⟩ := List.mem_map.1 hq
    obtain ⟨j, d, r', -, -, heq⟩ := mem_postorderFrom.1 hrest
    have hnumber : i = i + 1 + j := (List.cons.inj heq).1
    omega

end

end Module

/-! ### Linking makes linked trees -/

/-- A module is built without anything below it, and has not been linked. -/
theorem Builder.eq_new_of_build {b : Builder} {url : Url} {context : Script.ObjectId} {m : Module}
    {s s' : Session} (h : (b.build url context).run s = (.ok m, s')) : ∃ kind, m = .new url kind context := by
  unfold build at h
  split at h
  · obtain ⟨result, s₁, -, h⟩ := Load.run_bind_eq_ok.1 h
    cases result with
    | error e => cases h
    | ok fetched =>
      dsimp only at h
      split at h
      · cases h
      · obtain ⟨_, s₂, -, h⟩ := Load.run_bind_eq_ok.1 h
        cases h
        exact ⟨_, rfl⟩
  · split at h
    · unfold buildBuiltin at h
      split at h
      · cases h
      · obtain ⟨s₀, s₁, -, h⟩ := Load.run_bind_eq_ok.1 h
        obtain ⟨_, s₂, -, h⟩ := Load.run_bind_eq_ok.1 h
        cases h
        exact ⟨_, rfl⟩
    · cases h

theorem Builder.exports_of_build {b : Builder} {url : Url} {context : Script.ObjectId} {m : Module}
    {s s' : Session} (h : (b.build url context).run s = (.ok m, s')) : m.exports = none := by
  obtain ⟨kind, rfl⟩ := eq_new_of_build h
  rfl

theorem Linker.linkedTree_of_dependency {l : Linker} {link : Module → Load Module} {m t : Module}
    {above : List Url} {specifier : String} {s s' : Session}
    (hlink : ∀ {m t s s'}, m.exports = none → (link m).run s = (.ok t, s') → t.LinkedTree)
    (h : (l.dependency link m above specifier).run s = (.ok t, s')) : t.LinkedTree := by
  unfold dependency at h
  split at h
  · cases h
  · split at h
    · cases h
    · obtain ⟨_, s₁, -, h⟩ := Load.run_bind_eq_ok.1 h
      obtain ⟨built, s₂, hbuild, h⟩ := Load.run_bind_eq_ok.1 h
      exact hlink (Builder.exports_of_build hbuild) h

/-- **Linking puts linked trees below a module,** those that it requests, and changes nothing else of it. -/
theorem Linker.below_of_linkBelow {l : Linker} {depth : Nat} {above : List Url} {m t : Module}
    {s s' : Session} (h : (l.linkBelow depth above m).run s = (.ok t, s')) :
    ∃ ds, t = .node m.url m.context m.kind .linked m.exports ds ∧ ds.map (·.1) = t.requests ∧
      ∀ d ∈ ds, d.2.LinkedTree := by
  induction depth generalizing above m t s s' with
  | zero => cases h
  | succ depth ih =>
    obtain ⟨url, context, kind, state, exports, dependencies⟩ := m
    unfold linkBelow at h
    obtain ⟨m₁, s₁, hlinking, h⟩ := Load.run_bind_eq_ok.1 h
    obtain ⟨ds, s₂, hds, h⟩ := Load.run_bind_eq_ok.1 h
    obtain rfl : m₁ = .node url context kind .linking exports dependencies := by
      unfold Module.transition at hlinking
      split at hlinking <;> cases hlinking
      rfl
    cases h
    have htree : ∀ {m t s s'}, m.exports = none → (l.linkBelow depth (above ++ [url]) m).run s = (.ok t, s') →
        t.LinkedTree := by
      intro m t s s' hm h
      obtain ⟨ds, rfl, hspecifiers, hds⟩ := ih h
      rw [hm] at hspecifiers ⊢
      exact .node hspecifiers hds
    have hlinked : List.Forall₂ (fun d specifier => d.2.LinkedTree ∧ d.1 = specifier) ds
        (Module.node url context kind .linking exports dependencies).requests := by
      refine List.Forall₂.flip ((Load.forall₂_of_run_mapM hds).imp fun specifier d ⟨s, s', hd⟩ => ?_)
      obtain ⟨t, s₃, ht, hd⟩ := Load.run_bind_eq_ok.1 hd
      cases hd
      exact ⟨linkedTree_of_dependency htree ht, rfl⟩
    obtain ⟨hdependencies, hspecifiers⟩ := (List.forall₂_and_left _ _).1 hlinked
    refine ⟨ds, rfl, ?_, hdependencies⟩
    rw [← List.forall₂_eq_eq_eq, List.forall₂_map_left_iff]
    exact hspecifiers

/-- **What linking makes is a linked tree.** -/
theorem Linker.linkedTree_of_linkBelow {l : Linker} {depth : Nat} {above : List Url} {m t : Module}
    {s s' : Session} (hm : m.exports = none) (h : (l.linkBelow depth above m).run s = (.ok t, s')) :
    t.LinkedTree := by
  obtain ⟨ds, rfl, hspecifiers, hds⟩ := below_of_linkBelow h
  rw [hm] at hspecifiers ⊢
  exact .node hspecifiers hds

/-- A module that has been linked has linked trees below it, those that it requests. -/
theorem Linker.below_of_link {l : Linker} {m t : Module} {s : Session} (h : (l.link m s).1 = (t, .ok ())) :
    ∃ ds, t = .node m.url m.context m.kind .linked m.exports ds ∧ ds.map (·.1) = t.requests ∧
      ∀ d ∈ ds, d.2.LinkedTree := by
  unfold link at h
  cases htransition : m.transition .linking with
  | error e =>
    rw [htransition] at h
    cases h
  | ok linking =>
    rw [htransition] at h
    simp only [bind, StateT.bind] at h
    cases hrun : (l.linkBelow l.depth [] m).run s with
    | mk result s' =>
      rw [hrun] at h
      cases result with
      | error e => cases h
      | ok linked =>
        cases h
        exact below_of_linkBelow hrun

/-- A module without exports that has been linked is the root of a linked tree. -/
theorem Linker.linkedTree_of_link {l : Linker} {m t : Module} {s : Session} (hm : m.exports = none)
    (h : (l.link m s).1 = (t, .ok ())) : t.LinkedTree := by
  obtain ⟨ds, rfl, hspecifiers, hds⟩ := below_of_link h
  rw [hm] at hspecifiers ⊢
  exact .node hspecifiers hds

end ScriptImport
