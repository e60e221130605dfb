/-
# Steps that keep what is held

A step upholds what is held if from a sound store on it binds held values only, its result is held, and it comes to the
same when things that are gone have been freed before, which may be any things that nothing that stays names
(`UpholdsAt`).  A step that may stop with an error keeps what is held if it does so, and no function has lost its scope
when it stops (`Keeps`).

Both are closed under doing one step after the other (`Upholds.bind`, `Keeps.bind`), so a proof that a run keeps what is
held follows the run.
-/

import ScriptImport.Proofs.Script.Freed

namespace ScriptImport

open Script

/-- When something is held: all that it names is kept, and functions in it hold their scopes strongly. -/
structure Grip (α : Type) where
  Held : Set Thing → α → Prop
  mono : ∀ {kept kept' : Set Thing} {a : α}, kept ⊆ kept' → Held kept a → Held kept' a

namespace Grip

variable {α β ε : Type}

/-- What names nothing. -/
abbrev any (α : Type) : Grip α := ⟨fun _ _ => True, fun _ _ => trivial⟩

abbrev list (K : Grip α) : Grip (List α) :=
  ⟨fun kept as => ∀ a ∈ as, K.Held kept a, fun h has a ha => K.mono h (has a ha)⟩

abbrev option (K : Grip α) : Grip (Option α) :=
  ⟨fun kept a? => ∀ a ∈ a?, K.Held kept a, fun h has a ha => K.mono h (has a ha)⟩

abbrev pair (K : Grip α) (L : Grip β) : Grip (α × β) :=
  ⟨fun kept p => K.Held kept p.1 ∧ L.Held kept p.2, fun h hp => ⟨K.mono h hp.1, L.mono h hp.2⟩⟩

/-- Results, or errors. -/
abbrev except (E : Grip ε) (K : Grip α) : Grip (Except ε α) where
  Held kept
    | .ok a => K.Held kept a
    | .error e => E.Held kept e
  mono {_ _ result} h hresult := by
    cases result with
    | ok a => exact K.mono h hresult
    | error e => exact E.mono h hresult

end Grip

/-- States with a store in them, and the errors of what runs in them. -/
class HasStore (σ : Type) (ε : outParam Type) where
  store : σ → Store
  withStore : σ → Store → σ
  error : Grip ε

open HasStore

variable {σ ε α β : Type} [HasStore σ ε] {gone : Thing → Bool} {K : Grip α} {L : Grip β} {kept kept' : Set Thing}

/-- A state with a store in which what is gone is empty. -/
def HasStore.free (gone : Thing → Bool) (s : σ) : σ := withStore s ((store s).free gone)

/-- In this state a step does nothing to the bindings but to bind held values, its result is held, and it comes to the
same if what is gone has been freed before. -/
structure UpholdsAt (gone : Thing → Bool) (K : Grip α) (x : StateM σ α) (s : σ) : Prop where
  goes : ∃ binds, (store s).Goes gone binds (store (x s).2)
  held : K.Held ((store (x s).2).live gone) (x s).1
  freed : x (free gone s) = ((x s).1, free gone (x s).2)

/-- A step that upholds what is held in all states with a sound store in which `kept` stays. -/
def Upholds (gone : Thing → Bool) (K : Grip α) (kept : Set Thing) (x : StateM σ α) : Prop :=
  ∀ s, (store s).Sound gone → kept ⊆ (store s).live gone → UpholdsAt gone K x s

/-- A step that upholds what is held and may stop with an error, which is held, too. -/
def Keeps (gone : Thing → Bool) (K : Grip α) (kept : Set Thing) (x : ExceptT ε (StateM σ) α) : Prop :=
  Upholds gone ((HasStore.error σ).except K) kept x.run

namespace Upholds

variable {x : StateM σ α}

theorem mono (h : Upholds gone K kept x) (hkept : kept ⊆ kept') : Upholds gone K kept' x := fun s hs hsub =>
  h s hs (hkept.trans hsub)

theorem pure {a : α} (ha : K.Held kept a) : Upholds (σ := σ) gone K kept (Pure.pure a) := fun _ _ hsub =>
  ⟨⟨[], .done⟩, K.mono hsub ha, rfl⟩

/-- One after the other. -/
theorem bind {f : α → StateM σ β} (h : Upholds gone K kept x)
    (hf : ∀ kept' a, kept ⊆ kept' → K.Held kept' a → Upholds gone L kept' (f a)) : Upholds gone L kept (x >>= f) := by
  intro s hs hsub
  obtain ⟨⟨binds, hgoes⟩, hheld, hfreed⟩ := h s hs hsub
  have hkept := hsub.trans (Store.live_mono hgoes.extent_le)
  obtain ⟨⟨binds', hgoes'⟩, hheld', hfreed'⟩ := hf _ _ hkept hheld _ (hgoes.sound hs) subset_rfl
  refine ⟨⟨binds ++ binds', hgoes.append hgoes'⟩, hheld', ?_⟩
  change f (x (free gone s)).1 (x (free gone s)).2 = _
  rw [hfreed]
  exact hfreed'

end Upholds

namespace Keeps

variable {x : ExceptT ε (StateM σ) α}

theorem mono (h : Keeps gone K kept x) (hkept : kept ⊆ kept') : Keeps gone K kept' x := Upholds.mono h hkept

theorem pure {a : α} (ha : K.Held kept a) : Keeps (σ := σ) gone K kept (Pure.pure a) :=
  Upholds.pure (K := (HasStore.error σ).except K) (a := .ok a) ha

theorem throw {e : ε} (he : (HasStore.error σ).Held kept e) : Keeps (σ := σ) gone K kept (MonadExcept.throw e) :=
  Upholds.pure (K := (HasStore.error σ).except K) (a := .error e) he

/-- One after the other. -/
theorem bind {f : α → ExceptT ε (StateM σ) β} (h : Keeps gone K kept x)
    (hf : ∀ kept' a, kept ⊆ kept' → K.Held kept' a → Keeps gone L kept' (f a)) : Keeps gone L kept (x >>= f) := by
  change Upholds gone _ kept (x.run >>= ExceptT.bindCont f)
  refine Upholds.bind h fun kept' result hkept hresult => ?_
  cases result with
  | ok a => exact hf kept' a hkept hresult
  | error e => exact Upholds.pure (K := (HasStore.error σ).except L) (a := .error e) hresult

/-- What depends on the state as it is, but not on what is gone. -/
theorem bind_get {f : σ → ExceptT ε (StateM σ) β}
    (h : ∀ s, (store s).Sound gone → kept ⊆ (store s).live gone →
      f (free gone s) = f s ∧ Keeps gone L ((store s).live gone) (f s)) :
    Keeps gone L kept (get >>= f) := by
  intro s hs hsub
  obtain ⟨hsame, hkeeps⟩ := h s hs hsub
  obtain ⟨hgoes, hheld, hfreed⟩ := hkeeps s hs subset_rfl
  refine ⟨hgoes, hheld, ?_⟩
  change f (free gone s) (free gone s) = _
  rw [hsame]
  exact hfreed

/-- A step that cannot stop. -/
theorem modifyGet {f : StateM σ α} (h : Upholds gone K kept f) :
    Keeps gone K kept (MonadStateOf.modifyGet f : ExceptT ε (StateM σ) α) := by
  intro s hs hsub
  obtain ⟨hgoes, hheld, hfreed⟩ := h s hs hsub
  exact ⟨hgoes, hheld, congrArg (fun p : α × σ => (Except.ok p.1, p.2)) hfreed⟩

theorem mapM {γ : Type} {f : γ → ExceptT ε (StateM σ) α} {as : List γ}
    (h : ∀ a ∈ as, ∀ kept', kept ⊆ kept' → Keeps gone K kept' (f a)) : Keeps gone K.list kept (as.mapM f) := by
  induction as generalizing kept with
  | nil => exact .pure nofun
  | cons a as ih =>
    rw [List.mapM_cons]
    obtain ⟨ha, has⟩ := List.forall_mem_cons.1 h
    refine (ha kept subset_rfl).bind fun kept₁ b hkept₁ hb => ?_
    refine (ih fun a ha kept' hkept' => has a ha kept' (hkept₁.trans hkept')).bind fun kept₂ bs hkept₂ hbs => ?_
    exact .pure (List.forall_mem_cons.2 ⟨K.mono hkept₂ hb, hbs⟩)

theorem forM {γ : Type} {f : γ → ExceptT ε (StateM σ) PUnit} {as : List γ}
    (h : ∀ a ∈ as, ∀ kept', kept ⊆ kept' → Keeps gone (.any PUnit) kept' (f a)) :
    Keeps gone (.any PUnit) kept (as.forM f) := by
  induction as generalizing kept with
  | nil => exact .pure trivial
  | cons a as ih =>
    obtain ⟨ha, has⟩ := List.forall_mem_cons.1 h
    exact (ha kept subset_rfl).bind fun kept₁ _ hkept₁ _ =>
      ih fun a ha kept' hkept' => has a ha kept' (hkept₁.trans hkept')

theorem foldlM {γ : Type} {f : α → γ → ExceptT ε (StateM σ) α} {as : List γ}
    (h : ∀ a ∈ as, ∀ kept' b, kept ⊆ kept' → K.Held kept' b → Keeps gone K kept' (f b a)) {b : α}
    (hb : K.Held kept b) : Keeps gone K kept (as.foldlM f b) := by
  induction as generalizing kept b with
  | nil => exact .pure hb
  | cons a as ih =>
    rw [List.foldlM_cons]
    obtain ⟨ha, has⟩ := List.forall_mem_cons.1 h
    exact (ha kept b subset_rfl hb).bind fun kept₁ _ hkept₁ hb₁ =>
      ih (fun a ha kept' b' hkept' => has a ha kept' b' (hkept₁.trans hkept')) hb₁

end Keeps
end ScriptImport
