/-
# Steps of loading

Loading goes from session to session and stops at the first error.  What a run of one step after the other
comes to is said by `run_bind_of_ok` and `run_bind_of_error`, and backwards by `run_bind_eq_ok`: if all of it
succeeds, so did the first step.  `Raises` says for which reasons a step may stop.
-/

import Mathlib.Data.List.Forall2
import ScriptImport.Module.Load

namespace ScriptImport

namespace Load

variable {α β : Type} {s s' : Session}

theorem run_bind_of_ok {x : Load α} {a : α} (h : x.run s = (.ok a, s')) (f : α → Load β) :
    (x >>= f).run s = (f a).run s' := by
  rw [ExceptT.run_bind]
  simp only [bind, StateT.bind, h]

theorem run_bind_of_error {x : Load α} {e : LoadError} (h : x.run s = (.error e, s')) (f : α → Load β) :
    (x >>= f).run s = (.error e, s') := by
  rw [ExceptT.run_bind]
  simp only [bind, StateT.bind, h]
  rfl

/-- If one step after the other succeeds, each of them does. -/
theorem run_bind_eq_ok {x : Load α} {f : α → Load β} {b : β} :
    (x >>= f).run s = (.ok b, s') ↔ ∃ a s₁, x.run s = (.ok a, s₁) ∧ (f a).run s₁ = (.ok b, s') := by
  constructor
  · intro h
    cases hx : x.run s with
    | mk result s₁ =>
      cases result with
      | ok a =>
        rw [run_bind_of_ok hx] at h
        exact ⟨a, s₁, rfl, h⟩
      | error e =>
        rw [run_bind_of_error hx] at h
        cases h
  · rintro ⟨a, s₁, hx, hf⟩
    rw [run_bind_of_ok hx, hf]

theorem run_get (s : Session) : (get : Load Session).run s = (.ok s, s) := rfl

theorem run_onWeb (act : StateM Web α) (s : Session) :
    (onWeb act).run s = (.ok (act s.web).1, { s with web := (act s.web).2 }) := rfl

theorem run_log (e : Event) (s : Session) :
    (log e).run s = (.ok (), { s with web := (Web.log e s.web).2 }) := rfl

theorem run_script (act : Script.Run α) (s : Session) :
    (script act).run s = ((act.run s.scripts).1.mapError .eval, { s with scripts := (act.run s.scripts).2 }) := by
  unfold script
  rw [run_bind_of_ok (run_get s)]
  obtain ⟨result, scripts, hrun⟩ : ∃ result scripts, act.run s.scripts = (result, scripts) := ⟨_, _, rfl⟩
  rw [StateT.run, hrun]
  cases result <;> rfl

/-- If loading one after the other succeeds, each of them has been loaded. -/
theorem forall₂_of_run_mapM {f : α → Load β} {as : List α} {bs : List β}
    (h : (as.mapM f).run s = (.ok bs, s')) :
    List.Forall₂ (fun a b => ∃ s s', (f a).run s = (.ok b, s')) as bs := by
  induction as generalizing bs s with
  | nil =>
    cases h
    exact .nil
  | cons a as ih =>
    rw [List.mapM_cons] at h
    obtain ⟨b, s₁, hfirst, h⟩ := run_bind_eq_ok.1 h
    obtain ⟨bs', s₂, hrest, h⟩ := run_bind_eq_ok.1 h
    cases h
    exact .cons ⟨s, s₁, hfirst⟩ (ih hrest)

/-- **Loading one after the other:** if each of some things either succeeds or fails, all succeed, or one
fails and those before it succeed; what is kept each time is kept. -/
theorem run_mapM {f : α → Load β} {kept : Session → Prop} {good : α → β → Prop} {bad : α → LoadError → Prop}
    {as : List α} (hf : ∀ a ∈ as, ∀ s, kept s → ∃ s', kept s' ∧
      ((∃ b, (f a).run s = (.ok b, s') ∧ good a b) ∨ ∃ e, (f a).run s = (.error e, s') ∧ bad a e))
    (hs : kept s) : ∃ s', kept s' ∧
      ((∃ bs, (as.mapM f).run s = (.ok bs, s') ∧ List.Forall₂ good as bs) ∨
        ∃ (i : Nat) (a : α) (e : LoadError), (as.mapM f).run s = (.error e, s') ∧ as[i]? = some a ∧ bad a e ∧
          ∀ j < i, ∀ a', as[j]? = some a' → ∃ b, good a' b) := by
  induction as generalizing s with
  | nil => exact ⟨s, hs, .inl ⟨[], rfl, .nil⟩⟩
  | cons a as ih =>
    rw [List.mapM_cons]
    obtain ⟨s₁, hs₁, ⟨b, hrun, hgood⟩ | ⟨e, hrun, hbad⟩⟩ := hf a (by simp) s hs
    · rw [run_bind_of_ok hrun]
      obtain ⟨s₂, hs₂, h⟩ := ih (fun a' ha' => hf a' (by simp [ha'])) hs₁
      refine ⟨s₂, hs₂, ?_⟩
      rcases h with ⟨bs, hrest, hall⟩ | ⟨i, a', e, hrest, hi, hbad, hbefore⟩
      · exact .inl ⟨b :: bs, run_bind_of_ok hrest _, .cons hgood hall⟩
      · refine .inr ⟨i + 1, a', e, run_bind_of_error hrest _, hi, hbad, fun j hj a'' ha'' => ?_⟩
        cases j with
        | zero => exact ⟨b, Option.some.inj ha'' ▸ hgood⟩
        | succ j => exact hbefore j (Nat.lt_of_succ_lt_succ hj) a'' ha''
    · exact ⟨s₁, hs₁, .inr ⟨0, a, e, run_bind_of_error hrun _, rfl, hbad, fun j hj => absurd hj (by simp)⟩⟩

/-! ### Why steps stop -/

/-- A step that stops for reasons of some kind only. -/
def Raises (P : LoadError → Prop) (x : Load α) : Prop := ∀ s e s', x.run s = (.error e, s') → P e

variable {P : LoadError → Prop}

theorem raises_pure (a : α) : Raises P (pure a) := fun _ _ _ h => by cases h

theorem Raises.bind {x : Load α} {f : α → Load β} (hx : Raises P x)
    (hf : ∀ s a s', x.run s = (.ok a, s') → Raises P (f a)) : Raises P (x >>= f) := by
  intro s e s' h
  cases hrun : x.run s with
  | mk result s₁ =>
    cases result with
    | ok a =>
      rw [run_bind_of_ok hrun] at h
      exact hf s a s₁ hrun s₁ e s' h
    | error e₁ =>
      rw [run_bind_of_error hrun] at h
      obtain rfl : e₁ = e := Except.error.inj (congrArg Prod.fst h)
      exact hx s e₁ s₁ hrun

theorem raises_get : Raises P get := fun _ _ _ h => by cases h

theorem raises_throw {e : LoadError} (he : P e) : Raises P (throw e : Load α) := by
  intro s e' s' h
  exact Except.error.inj (congrArg Prod.fst h) ▸ he

theorem raises_onWeb (act : StateM Web α) : Raises P (onWeb act) := fun _ _ _ h => by cases h

theorem raises_log (e : Event) : Raises P (log e) := raises_onWeb _

/-- Running a script stops with errors of scripts only. -/
theorem raises_script (hP : ∀ e, P (.eval e)) (act : Script.Run α) : Raises P (script act) := by
  refine raises_get.bind fun _ s _ _ => ?_
  split
  · exact fun _ _ _ h => by cases h
  · exact fun _ _ _ h => by
      cases h
      exact hP _

theorem raises_forM {as : List α} {f : α → Load PUnit} (hf : ∀ a ∈ as, Raises P (f a)) :
    Raises P (as.forM f) := by
  induction as with
  | nil => exact raises_pure _
  | cons a as ih =>
    exact (hf a (List.mem_cons_self ..)).bind fun _ _ _ _ =>
      ih fun a' ha' => hf a' (List.mem_cons_of_mem _ ha')

theorem raises_foldlM {as : List α} {f : β → α → Load β} (hf : ∀ b, ∀ a ∈ as, Raises P (f b a)) (b : β) :
    Raises P (as.foldlM f b) := by
  induction as generalizing b with
  | nil => exact raises_pure b
  | cons a as ih =>
    rw [List.foldlM_cons]
    exact (hf b a (List.mem_cons_self ..)).bind fun _ b' _ _ =>
      ih (fun b a' ha' => hf b a' (List.mem_cons_of_mem _ ha')) b'

theorem raises_mapM {as : List α} {f : α → Load β} (hf : ∀ a ∈ as, Raises P (f a)) :
    Raises P (as.mapM f) := by
  induction as with
  | nil => exact raises_pure _
  | cons a as ih =>
    rw [List.mapM_cons]
    exact (hf a (List.mem_cons_self ..)).bind fun _ _ _ _ =>
      (ih fun a' ha' => hf a' (List.mem_cons_of_mem _ ha')).bind fun _ _ _ _ => raises_pure _

end Load
end ScriptImport
