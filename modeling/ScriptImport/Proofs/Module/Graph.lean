/-
# The graph of the modules below a root

Linking walks the modules below a root in the order of their requests and stops at the first fault: a
specifier that names no URL, a URL that is on the way from the root already, or one that no module can be
built from.  A position is the list of the numbers of the requests that lead there, so the first fault is the
one with the least position in the order of a dictionary (`FirstFault`).

There is no fault if and only if the graph is sound (`sound_iff_no_fault`): all specifiers name URLs, all URLs
can be built, and no URL is below itself.
-/

import Mathlib.Data.List.Chain
import Mathlib.Data.List.Lex
import Mathlib.Data.Set.Card
import Mathlib.Logic.Relation
import ScriptImport.Module.Load

namespace ScriptImport

/-- The specifiers that a module of a kind requests. -/
def ModuleKind.requests : ModuleKind → List String
  | source p => p.requests
  | synthetic .. => []

/-- What linking sees: where specifiers lead and what URLs are built into. -/
structure ModuleGraph where
  resolve : Url → String → Except ResolveError Url
  made : Url → Except LoadError ModuleKind

namespace ModuleGraph

variable {g : ModuleGraph} {root url v : Url} {way : List Url} {s : String}

/-- The specifiers that the module at a URL requests. -/
def requests (g : ModuleGraph) (url : Url) : List String :=
  match g.made url with
  | .ok kind => kind.requests
  | .error _ => []

/-- A module imports another one. -/
def Edge (g : ModuleGraph) (u v : Url) : Prop := ∃ s ∈ g.requests u, g.resolve u s = .ok v

/-- A module is below another one, or is that one. -/
def Reaches (g : ModuleGraph) : Url → Url → Prop := Relation.ReflTransGen g.Edge

/-- Everything below the root can be resolved and built, and nothing is below itself. -/
structure Sound (g : ModuleGraph) (root : Url) : Prop where
  resolves : ∀ u, g.Reaches root u → ∀ s ∈ g.requests u, ∃ v, g.resolve u s = .ok v
  builds : ∀ u, g.Reaches root u → ∃ kind, g.made u = .ok kind
  acyclic : ∀ u, g.Reaches root u → ¬ Relation.TransGen g.Edge u u

/-- Imports from the root on that come back to a URL, for the first time at the end. -/
structure Circle (g : ModuleGraph) (root : Url) (chain : List Url) : Prop where
  head : chain.head? = some root
  edges : chain.IsChain g.Edge
  nodup : chain.dropLast.Nodup
  last : ∃ v ∈ chain.dropLast, chain.getLast? = some v

/-! ### Ways from the root -/

/-- A way of imports from the root to a URL that comes to no URL twice. -/
structure Way (g : ModuleGraph) (root : Url) (way : List Url) (url : Url) : Prop where
  head : way.head? = some root
  last : way.getLast? = some url
  edges : way.IsChain g.Edge
  nodup : way.Nodup
  below : ∀ u ∈ way, g.Reaches root u
  above : ∀ u ∈ way, g.Reaches u url

theorem way_root (g : ModuleGraph) (root : Url) : g.Way root [root] root where
  head := rfl
  last := rfl
  edges := List.isChain_singleton root
  nodup := List.nodup_singleton root
  below := by simp [Reaches, Relation.ReflTransGen.refl]
  above := by simp [Reaches, Relation.ReflTransGen.refl]

theorem Way.mem (h : g.Way root way url) : url ∈ way := List.mem_of_getLast? h.last

theorem Way.root_mem (h : g.Way root way url) : root ∈ way := List.mem_of_head? h.head

theorem Way.edges_append (h : g.Way root way url) (hedge : g.Edge url v) :
    (way ++ [v]).IsChain g.Edge := by
  refine h.edges.append (List.isChain_singleton v) fun x hx y hy => ?_
  obtain rfl := Option.some.inj (h.last.symm.trans hx)
  obtain rfl := Option.some.inj hy
  exact hedge

/-- A way goes on to a URL that it has not come to. -/
theorem Way.push (h : g.Way root way url) (hedge : g.Edge url v) (hv : v ∉ way) :
    g.Way root (way ++ [v]) v where
  head := by rw [List.head?_append, h.head]; rfl
  last := List.getLast?_concat
  edges := h.edges_append hedge
  nodup := by
    rw [List.nodup_append]
    refine ⟨h.nodup, List.nodup_singleton v, fun x hx y hy heq => hv ?_⟩
    obtain rfl := List.mem_singleton.1 hy
    exact heq ▸ hx
  below u hu := by
    rcases List.mem_append.1 hu with hu | hu
    · exact h.below u hu
    · obtain rfl := List.mem_singleton.1 hu
      exact (h.below url h.mem).tail hedge
  above u hu := by
    rcases List.mem_append.1 hu with hu | hu
    · exact (h.above u hu).tail hedge
    · obtain rfl := List.mem_singleton.1 hu
      exact .refl

/-- A way that comes back is a circle. -/
theorem Way.circle (h : g.Way root way url) (hedge : g.Edge url v) (hv : v ∈ way) :
    g.Circle root (way ++ [v]) where
  head := by rw [List.head?_append, h.head]; rfl
  edges := h.edges_append hedge
  nodup := by rw [List.dropLast_concat]; exact h.nodup
  last := ⟨v, by rw [List.dropLast_concat]; exact hv, List.getLast?_concat⟩

/-- A way is not longer than there are URLs below the root. -/
theorem Way.length_le (h : g.Way root way url) (hfinite : {u | g.Reaches root u}.Finite) :
    way.length ≤ {u | g.Reaches root u}.ncard := by
  rw [← List.toFinset_card_of_nodup h.nodup, ← Set.ncard_coe_finset]
  refine Set.ncard_le_ncard (fun u hu => h.below u ?_) hfinite
  exact List.mem_toFinset.1 hu

/-! ### Faults -/

/-- Following the request `s` of the module at `url`, the last one on a way, leads to a fault: at once, or
below the URL that it names, behind the requests with the numbers of a position. -/
inductive Fault (g : ModuleGraph) : List Url → Url → String → List Nat → LoadError → Prop where
  | unresolved {way : List Url} {url : Url} {s : String} {e : ResolveError}
      (hs : g.resolve url s = .error e) : Fault g way url s [] (.resolve e)
  | circular {way : List Url} {url v : Url} {s : String} (hs : g.resolve url s = .ok v) (hv : v ∈ way) :
      Fault g way url s [] (.circular (way ++ [v]))
  | unbuilt {way : List Url} {url v : Url} {s : String} {e : LoadError} (hs : g.resolve url s = .ok v)
      (hv : v ∉ way) (he : g.made v = .error e) : Fault g way url s [] e
  | deeper {way : List Url} {url v : Url} {s s' : String} {i : Nat} {p : List Nat} {e : LoadError}
      (hs : g.resolve url s = .ok v) (hv : v ∉ way) (hi : (g.requests v)[i]? = some s')
      (hp : Fault g (way ++ [v]) v s' p e) : Fault g way url s (i :: p) e

/-- A position below the last module of a way at which there is a fault. -/
def FaultAt (g : ModuleGraph) (way : List Url) (url : Url) (p : List Nat) (e : LoadError) : Prop :=
  ∃ i s q, p = i :: q ∧ (g.requests url)[i]? = some s ∧ g.Fault way url s q e

/-- A position is another one, or in front of it in the order of a dictionary. -/
def Precedes (p p' : List Nat) : Prop := p = p' ∨ List.Lex (· < ·) p p'

theorem precedes_nil (p : List Nat) : Precedes [] p := (List.lex_nil_or_eq_nil p).symm.imp Eq.symm id

theorem Precedes.cons {p p' : List Nat} (h : Precedes p p') (i : Nat) : Precedes (i :: p) (i :: p') :=
  h.imp (congrArg (i :: ·)) .cons

/-- The fault that is met first. -/
structure FirstFault (g : ModuleGraph) (way : List Url) (url : Url) (p : List Nat) (e : LoadError) :
    Prop where
  fault : g.FaultAt way url p e
  least : ∀ p' e', g.FaultAt way url p' e' → Precedes p p'

theorem Fault.push {p : List Nat} {e : LoadError} (hs : g.resolve url s = .ok v) (hv : v ∉ way)
    (h : g.FaultAt (way ++ [v]) v p e) : g.Fault way url s p e := by
  obtain ⟨i, s', q, rfl, hi, hq⟩ := h
  exact .deeper hs hv hi hq

/-- Behind a specifier that leads to a new module, the faults are those below it. -/
theorem fault_iff {kind : ModuleKind} {p : List Nat} {e : LoadError} (hs : g.resolve url s = .ok v)
    (hv : v ∉ way) (hmade : g.made v = .ok kind) :
    g.Fault way url s p e ↔ g.FaultAt (way ++ [v]) v p e := by
  refine ⟨fun h => ?_, Fault.push hs hv⟩
  cases h with
  | unresolved he => exact absurd (hs.symm.trans he) (by simp)
  | circular hs' hv' =>
    obtain rfl := Except.ok.inj (hs.symm.trans hs')
    exact absurd hv' hv
  | unbuilt hs' _ he =>
    obtain rfl := Except.ok.inj (hs.symm.trans hs')
    exact absurd (hmade.symm.trans he) (by simp)
  | deeper hs' _ hi hp =>
    obtain rfl := Except.ok.inj (hs.symm.trans hs')
    exact ⟨_, _, _, rfl, hi, hp⟩

/-- The first fault behind the first request that leads to one is the first fault. -/
theorem firstFault_of_least {i : Nat} {q : List Nat} {e : LoadError} (hi : (g.requests url)[i]? = some s)
    (hq : g.Fault way url s q e) (hleast : ∀ q' e', g.Fault way url s q' e' → Precedes q q')
    (hbefore : ∀ j < i, ∀ s', (g.requests url)[j]? = some s' → ∀ q' e', ¬ g.Fault way url s' q' e') :
    g.FirstFault way url (i :: q) e := by
  refine ⟨⟨i, s, q, rfl, hi, hq⟩, ?_⟩
  rintro _ e' ⟨j, s', q', rfl, hj, hq'⟩
  rcases lt_trichotomy i j with hlt | rfl | hlt
  · exact .inr (.rel hlt)
  · obtain rfl := Option.some.inj (hi.symm.trans hj)
    exact (hleast q' e' hq').cons i
  · exact absurd hq' (hbefore j hlt s' hj q' e')

/-- **In a sound graph there is no fault.** -/
theorem Sound.no_fault (h : g.Sound root) {p : List Nat} {e : LoadError} (hf : g.Fault way url s p e)
    (hway : g.Way root way url) (hs : s ∈ g.requests url) : False := by
  induction hf with
  | unresolved he =>
    obtain ⟨v, hv⟩ := h.resolves _ (hway.below _ hway.mem) _ hs
    rw [he] at hv
    exact absurd hv (by simp)
  | circular hv hmem =>
    exact h.acyclic _ (hway.below _ hmem) (.tail' (hway.above _ hmem) ⟨_, hs, hv⟩)
  | unbuilt hv hmem he =>
    obtain ⟨kind, hkind⟩ := h.builds _ ((hway.below _ hway.mem).tail ⟨_, hs, hv⟩)
    rw [he] at hkind
    exact absurd hkind (by simp)
  | deeper hv hmem hi _ ih => exact ih (hway.push ⟨_, hs, hv⟩ hmem) (List.mem_of_getElem? hi)

/-- Without faults, every way goes on to all that is below it. -/
theorem Way.extend (hway : g.Way root way url) (hmade : ∃ kind, g.made url = .ok kind)
    (hf : ∀ p e, ¬ g.FaultAt way url p e) (hv : g.Reaches url v) :
    ∃ way', way ⊆ way' ∧ g.Way root way' v ∧ (∃ kind, g.made v = .ok kind) ∧
      ∀ p e, ¬ g.FaultAt way' v p e := by
  induction hv with
  | refl => exact ⟨way, List.Subset.refl way, hway, hmade, hf⟩
  | @tail u v _ hedge ih =>
    obtain ⟨way', hsub, hway', -, hf'⟩ := ih
    obtain ⟨s, hs, hv⟩ := hedge
    obtain ⟨i, hi⟩ := List.getElem?_of_mem hs
    have hnew : v ∉ way' := fun hmem => hf' _ _ ⟨i, s, [], rfl, hi, .circular hv hmem⟩
    refine ⟨way' ++ [v], List.Subset.trans hsub (List.subset_append_left ..), hway'.push ⟨s, hs, hv⟩ hnew, ?_,
      fun p e hp => hf' _ _ ⟨i, s, p, rfl, hi, Fault.push hv hnew hp⟩⟩
    cases hmade : g.made v with
    | ok kind => exact ⟨kind, rfl⟩
    | error e => exact absurd ⟨i, s, [], rfl, hi, .unbuilt hv hnew hmade⟩ (hf' _ _)

/-- **A graph is sound exactly when there is no fault below its root.** -/
theorem sound_iff_no_fault (hroot : ∃ kind, g.made root = .ok kind) :
    g.Sound root ↔ ∀ p e, ¬ g.FaultAt [root] root p e := by
  constructor
  · rintro h p e ⟨i, s, q, -, hi, hq⟩
    exact h.no_fault hq (way_root g root) (List.mem_of_getElem? hi)
  · intro hf
    have hextend := fun u (hu : g.Reaches root u) => (way_root g root).extend hroot hf hu
    refine ⟨fun u hu s hs => ?_, fun u hu => ?_, fun u hu hcycle => ?_⟩
    · obtain ⟨way, -, -, -, hf'⟩ := hextend u hu
      obtain ⟨i, hi⟩ := List.getElem?_of_mem hs
      cases hv : g.resolve u s with
      | ok v => exact ⟨v, rfl⟩
      | error e => exact absurd ⟨i, s, [], rfl, hi, .unresolved hv⟩ (hf' _ _)
    · obtain ⟨way, -, -, hmade, -⟩ := hextend u hu
      exact hmade
    · obtain ⟨way, -, hway, hmade, hf'⟩ := hextend u hu
      obtain ⟨w, huw, s, hs, hv⟩ := Relation.TransGen.tail'_iff.1 hcycle
      obtain ⟨way', hsub, -, -, hf''⟩ := hway.extend hmade hf' huw
      obtain ⟨i, hi⟩ := List.getElem?_of_mem hs
      exact hf'' _ _ ⟨i, s, [], rfl, hi, .circular hv (hsub hway.mem)⟩

/-- A fault is of linking, or of building. -/
theorem Fault.error_cases {p : List Nat} {e : LoadError} (hf : g.Fault way url s p e) :
    (∃ r, e = .resolve r) ∨ (∃ chain, e = .circular chain) ∨ ∃ v, g.made v = .error e := by
  induction hf with
  | unresolved => exact .inl ⟨_, rfl⟩
  | circular => exact .inr (.inl ⟨_, rfl⟩)
  | unbuilt _ _ he => exact .inr (.inr ⟨_, he⟩)
  | deeper _ _ _ _ ih => exact ih

/-- **A circle that is met is a circle.** -/
theorem Fault.circle {p : List Nat} {chain : List Url} (hf : g.Fault way url s p (.circular chain))
    (hway : g.Way root way url) (hs : s ∈ g.requests url)
    (hmade : ∀ v chain, g.made v ≠ .error (.circular chain)) : g.Circle root chain := by
  generalize he : LoadError.circular chain = e at hf
  induction hf with
  | unresolved => exact absurd he (by simp)
  | circular hv hmem =>
    obtain rfl := LoadError.circular.inj he
    exact hway.circle ⟨_, hs, hv⟩ hmem
  | unbuilt hv hmem hbuild => exact absurd (he ▸ hbuild) (hmade _ _)
  | deeper hv hmem hi _ ih => exact ih (hway.push ⟨_, hs, hv⟩ hmem) (List.mem_of_getElem? hi) he

end ModuleGraph
end ScriptImport
