/-
# Doing the same behind something else

Two runs start, one in a world by itself, the other with that world behind another one, `old`, and with names
moved up.  They are `Parallel` if they do the same and the second does not touch `old`: the second ends with the
result of the first, its names moved up, and with the world of the first behind `old`.  Meanwhile a world by
itself keeps naming only what is in it.  Runs that may stop with an error are `Apart` if they are parallel and
their errors are the same, too, up to the names.

Both relations go through one step after the other (`Parallel.bind`, `Apart.bind`), so a proof that a run is
apart from itself follows the run.
-/

import Mathlib.Order.Basic

namespace ScriptImport

/-- How much a store holds. -/
structure Extent where
  arrays : Nat
  objects : Nat
  frames : Nat
  identities : Nat

instance : Preorder Extent where
  le d e := d.arrays ≤ e.arrays ∧ d.objects ≤ e.objects ∧ d.frames ≤ e.frames ∧ d.identities ≤ e.identities
  le_refl _ := ⟨Nat.le_refl _, Nat.le_refl _, Nat.le_refl _, Nat.le_refl _⟩
  le_trans _ _ _ h h' :=
    ⟨Nat.le_trans h.1 h'.1, Nat.le_trans h.2.1 h'.2.1, Nat.le_trans h.2.2.1 h'.2.2.1,
      Nat.le_trans h.2.2.2 h'.2.2.2⟩

theorem Extent.le_iff {d e : Extent} : d ≤ e ↔
    d.arrays ≤ e.arrays ∧ d.objects ≤ e.objects ∧ d.frames ≤ e.frames ∧ d.identities ≤ e.identities := Iff.rfl

/-- Things that can be behind what fills an extent, and that name only what is within one. -/
structure Kind (α : Type) where
  behind : Extent → α → α
  Within : Extent → α → Prop
  mono : ∀ {d d' : Extent} {a : α}, d ≤ d' → Within d a → Within d' a

namespace Kind

variable {α β ε : Type}

/-- What names nothing. -/
abbrev same (α : Type) : Kind α := ⟨fun _ a => a, fun _ _ => True, fun _ _ => trivial⟩

abbrev list (K : Kind α) : Kind (List α) :=
  ⟨fun k => List.map (K.behind k), fun d as => ∀ a ∈ as, K.Within d a, fun h has a ha => K.mono h (has a ha)⟩

abbrev option (K : Kind α) : Kind (Option α) :=
  ⟨fun k => Option.map (K.behind k), fun d a? => ∀ a ∈ a?, K.Within d a, fun h has a ha => K.mono h (has a ha)⟩

abbrev pair (K : Kind α) (L : Kind β) : Kind (α × β) :=
  ⟨fun k p => (K.behind k p.1, L.behind k p.2), fun d p => K.Within d p.1 ∧ L.Within d p.2,
    fun h hp => ⟨K.mono h hp.1, L.mono h hp.2⟩⟩

/-- Results, or errors. -/
abbrev except (E : Kind ε) (K : Kind α) : Kind (Except ε α) where
  behind k
    | .ok a => .ok (K.behind k a)
    | .error e => .error (E.behind k e)
  Within d
    | .ok a => K.Within d a
    | .error e => E.Within d e
  mono {_ _ result} h hresult := by
    cases result with
    | ok a => exact K.mono h hresult
    | error e => exact E.mono h hresult

end Kind

/-- A world that can be behind another one, and the errors of what runs in it. -/
class World (σ : Type) (ε : outParam Type) where
  extent : σ → Extent
  /-- All that it names is in it. -/
  Closed : σ → Prop
  behind : σ → σ → σ
  error : Kind ε

open World

variable {σ ε α β : Type} [World σ ε] {old : σ} {K : Kind α} {L : Kind β} {d d' : Extent}

/-- Behind `old`, the second does what the first does by itself, in a world that holds at least `d`. -/
def Parallel (old : σ) (K : Kind α) (d : Extent) (x y : StateM σ α) : Prop :=
  ∀ s : σ, Closed s → d ≤ extent s →
    y (behind old s) = (K.behind (extent old) (x s).1, behind old (x s).2) ∧
      Closed (x s).2 ∧ extent s ≤ extent (x s).2 ∧ K.Within (extent (x s).2) (x s).1

/-- Behind `old`, the second does what the first does by itself, and it stops when the first does. -/
def Apart (old : σ) (K : Kind α) (d : Extent) (x y : ExceptT ε (StateM σ) α) : Prop :=
  Parallel old (World.error σ |>.except K) d x.run y.run

namespace Parallel

variable {x y : StateM σ α}

theorem mono (h : Parallel old K d x y) (hd : d ≤ d') : Parallel old K d' x y := fun s hs hds =>
  h s hs (hd.trans hds)

theorem pure {a : α} (ha : K.Within d a) :
    Parallel old K d (Pure.pure a) (Pure.pure (K.behind (extent old) a)) := fun _ hs hd =>
  ⟨rfl, hs, le_rfl, K.mono hd ha⟩

/-- One after the other. -/
theorem bind {f g : α → StateM σ β} (h : Parallel old K d x y)
    (hf : ∀ d' a, d ≤ d' → K.Within d' a → Parallel old L d' (f a) (g (K.behind (extent old) a))) :
    Parallel old L d (x >>= f) (y >>= g) := by
  intro s hs hd
  obtain ⟨hy, hs', hle, ha⟩ := h s hs hd
  obtain ⟨hg, hs'', hle', hb⟩ := hf _ _ (hd.trans hle) ha _ hs' le_rfl
  refine ⟨?_, hs'', hle.trans hle', hb⟩
  change g (y (behind old s)).1 (y (behind old s)).2 = _
  rw [hy]
  exact hg

end Parallel

namespace Apart

variable {x y : ExceptT ε (StateM σ) α}

theorem mono (h : Apart old K d x y) (hd : d ≤ d') : Apart old K d' x y := Parallel.mono h hd

theorem pure {a : α} (ha : K.Within d a) : Apart old K d (Pure.pure a) (Pure.pure (K.behind (extent old) a)) :=
  Parallel.pure (K := (World.error σ).except K) (a := .ok a) ha

theorem pure_of_eq {a b : α} (ha : K.Within d a) (hb : b = K.behind (extent old) a) :
    Apart old K d (Pure.pure a) (Pure.pure b) := hb ▸ .pure ha

theorem throw {e : ε} (he : (World.error σ).Within d e) :
    Apart old K d (MonadExcept.throw e) (MonadExcept.throw ((World.error σ).behind (extent old) e)) :=
  Parallel.pure (K := (World.error σ).except K) (a := .error e) he

/-- One after the other. -/
theorem bind {f g : α → ExceptT ε (StateM σ) β} (h : Apart old K d x y)
    (hf : ∀ d' a, d ≤ d' → K.Within d' a → Apart old L d' (f a) (g (K.behind (extent old) a))) :
    Apart old L d (x >>= f) (y >>= g) := by
  change Parallel old _ d (x.run >>= ExceptT.bindCont f) (y.run >>= ExceptT.bindCont g)
  refine Parallel.bind h fun d' result hd hresult => ?_
  cases result with
  | ok a => exact hf d' a hd hresult
  | error e => exact Parallel.pure (K := (World.error σ).except L) (a := .error e) hresult

/-- What depends on the world as it is. -/
theorem bind_get {f g : σ → ExceptT ε (StateM σ) β}
    (h : ∀ s, Closed s → d ≤ extent s → Apart old L (extent s) (f s) (g (behind old s))) :
    Apart old L d (get >>= f) (get >>= g) := fun s hs hd =>
  h s hs hd s hs le_rfl

/-- A step that cannot stop. -/
theorem modifyGet {f g : StateM σ α} (h : Parallel old K d f g) :
    Apart old K d (MonadStateOf.modifyGet f) (MonadStateOf.modifyGet g) := by
  intro s hs hd
  obtain ⟨hg, hrest⟩ := h s hs hd
  exact ⟨congrArg (fun p : α × σ => (Except.ok p.1, p.2)) hg, hrest⟩

theorem mapM {γ : Type} {f g : γ → ExceptT ε (StateM σ) α} {as : List γ}
    (h : ∀ a ∈ as, ∀ d', d ≤ d' → Apart old K d' (f a) (g a)) : Apart old K.list d (as.mapM f) (as.mapM g) := by
  induction as generalizing d with
  | nil => exact .pure nofun
  | cons a as ih =>
    rw [List.mapM_cons, List.mapM_cons]
    obtain ⟨ha, has⟩ := List.forall_mem_cons.1 h
    refine (ha d le_rfl).bind fun d₁ b hd₁ hb => ?_
    refine (ih fun a ha d' hd' => has a ha d' (hd₁.trans hd')).bind fun d₂ bs hd₂ hbs => ?_
    exact .pure (a := b :: bs) (List.forall_mem_cons.2 ⟨K.mono hd₂ hb, hbs⟩)

theorem forM {γ : Type} {f g : γ → ExceptT ε (StateM σ) PUnit} {as : List γ}
    (h : ∀ a ∈ as, ∀ d', d ≤ d' → Apart old (.same PUnit) d' (f a) (g a)) :
    Apart old (.same PUnit) d (as.forM f) (as.forM g) := by
  induction as generalizing d with
  | nil => exact .pure trivial
  | cons a as ih =>
    obtain ⟨ha, has⟩ := List.forall_mem_cons.1 h
    exact (ha d le_rfl).bind fun d₁ _ hd₁ _ => ih fun a ha d' hd' => has a ha d' (hd₁.trans hd')

theorem foldlM {γ : Type} {f g : α → γ → ExceptT ε (StateM σ) α} {as : List γ}
    (h : ∀ a ∈ as, ∀ d' b, d ≤ d' → K.Within d' b → Apart old K d' (f b a) (g (K.behind (extent old) b) a))
    {b : α} (hb : K.Within d b) : Apart old K d (as.foldlM f b) (as.foldlM g (K.behind (extent old) b)) := by
  induction as generalizing d b with
  | nil => exact .pure hb
  | cons a as ih =>
    rw [List.foldlM_cons, List.foldlM_cons]
    obtain ⟨ha, has⟩ := List.forall_mem_cons.1 h
    exact (ha d b le_rfl hb).bind fun d₁ _ hd₁ hb₁ =>
      ih (fun a ha d' b' hd' => has a ha d' b' (hd₁.trans hd')) hb₁

end Apart
end ScriptImport
