/-
# What productions give

`Yields T p Q` says of a production `p`: on tokens that all satisfy `T` it leaves a rest of these tokens, and what
it has read satisfies `Q`, or it fails.  One production after the other yields what the second one yields for what
the first one may have read (`Yields.bind`), so what a production yields follows from its parts.  This file has
the rules for the productions that read single tokens and lists.
-/

import ScriptImport.Syntax.Module

namespace ScriptImport
namespace Syntax

/-- On tokens that satisfy `T`, the production leaves a rest of them and gives something that satisfies `Q`. -/
def Parser.Yields {α : Type} (T : Token → Prop) (p : Parser α) (Q : α → Prop) : Prop :=
  ∀ ts a rest, (∀ t ∈ ts, T t.token) → p ts = .ok (a, rest) → Q a ∧ rest <:+ ts

namespace Parser

variable {α β : Type} {T : Token → Prop} {Q Q' : α → Prop} {R : β → Prop} {p : Parser α}

theorem Yields.mono (hp : Yields T p Q) (h : ∀ a, Q a → Q' a) : Yields T p Q' := fun ts a rest hts hrun =>
  ⟨h a (hp ts a rest hts hrun).1, (hp ts a rest hts hrun).2⟩

theorem yields_pure {a : α} (h : Q a) : Yields T (pure a) Q := by
  intro ts a' rest _ hrun
  cases hrun
  exact ⟨h, List.suffix_rfl⟩

theorem yields_fail (fault : Fault) : Yields T (fail fault) Q := fun _ _ _ _ hrun => by cases hrun

theorem bind_of_ok {f : α → Parser β} {ts rest : List Located} {a : α} (h : p ts = .ok (a, rest)) :
    (p >>= f) ts = f a rest := by
  show (p ts >>= fun r => f r.1 r.2) = _
  rw [h]
  rfl

theorem bind_of_error {f : α → Parser β} {ts : List Located} {e : Failure} (h : p ts = .error e) :
    (p >>= f) ts = .error e := by
  show (p ts >>= fun r => f r.1 r.2) = _
  rw [h]
  rfl

/-- **Productions compose:** the second one works on a rest of the tokens of the first one. -/
theorem Yields.bind {f : α → Parser β} (hp : Yields T p Q) (hf : ∀ a, Q a → Yields T (f a) R) :
    Yields T (p >>= f) R := by
  intro ts b rest hts hrun
  cases hfirst : p ts with
  | error e =>
    rw [bind_of_error hfirst] at hrun
    cases hrun
  | ok r =>
    obtain ⟨a, ts'⟩ := r
    rw [bind_of_ok hfirst] at hrun
    obtain ⟨ha, hsuffix⟩ := hp ts a ts' hts hfirst
    obtain ⟨hb, hrest⟩ := hf a ha ts' b rest (fun t ht => hts t (hsuffix.subset ht)) hrun
    exact ⟨hb, hrest.trans hsuffix⟩

/-- What is read is not looked at before the next production. -/
theorem Yields.andThen {f : α → Parser β} (hp : Yields T p fun _ => True) (hf : ∀ a, Yields T (f a) R) :
    Yields T (p >>= f) R := hp.bind fun a _ => hf a

/-! ### Single tokens -/

theorem yields_peek : Yields T peek fun t? => ∀ t ∈ t?, T t := by
  intro ts a rest hts hrun
  cases hrun
  refine ⟨fun t ht => ?_, List.suffix_rfl⟩
  cases ts with
  | nil => cases ht
  | cons t' ts =>
    obtain rfl := Option.some.inj ht
    exact hts t' (List.mem_cons_self ..)

theorem yields_skip : Yields T skip fun _ => True := by
  intro ts a rest _ hrun
  cases hrun
  exact ⟨trivial, List.tail_suffix ts⟩

theorem yields_budget : Yields T budget fun _ => True := by
  intro ts a rest _ hrun
  cases hrun
  exact ⟨trivial, List.suffix_rfl⟩

theorem yields_get : Yields T get fun _ => True := by
  intro ts a rest _ hrun
  cases hrun
  exact ⟨trivial, List.suffix_rfl⟩

theorem yields_sees (q : Token → Bool) : Yields T (sees q) fun _ => True :=
  yields_peek.bind fun _ _ => yields_pure trivial

theorem yields_eat (q : Token → Bool) : Yields T (eat q) fun _ => True := by
  refine (yields_sees q).andThen fun b => ?_
  cases b with
  | true => exact yields_skip.andThen fun _ => yields_pure trivial
  | false => exact yields_pure trivial

/-- Passing over one token, or failing. -/
theorem yields_demand (q : Token → Bool) (fault : Fault) :
    Yields T (do unless ← eat q do fail fault) fun _ => True := by
  refine (yields_eat q).andThen fun b => ?_
  cases b with
  | true => exact yields_pure trivial
  | false => exact yields_fail fault

theorem yields_expectMark (m : Mark) : Yields T (expectMark m) fun _ => True := yields_demand _ _

theorem yields_expectKeyword (k : Keyword) : Yields T (expectKeyword k) fun _ => True := yields_demand _ _

theorem yields_expectWord (word : String) : Yields T (expectWord word) fun _ => True := yields_demand _ _

theorem yields_semicolon : Yields T semicolon fun _ => True :=
  (yields_eat _).andThen fun _ => yields_pure trivial

theorem yields_identifier : Yields T identifier fun x => T (.identifier x) := by
  refine yields_peek.bind fun t? ht? => ?_
  split
  · exact yields_skip.andThen fun _ => yields_pure (ht? _ rfl)
  · exact yields_fail _

theorem yields_string : Yields T string fun s => T (.string s) := by
  refine yields_peek.bind fun t? ht? => ?_
  split
  · exact yields_skip.andThen fun _ => yields_pure (ht? _ rfl)
  · exact yields_fail _

/-! ### Lists -/

theorem Yields.separated (hp : Yields T p Q) (close : Mark) (budget : Nat) :
    Yields T (separated p close budget) fun xs => ∀ x ∈ xs, Q x := by
  have hone : ∀ x, Q x → ∀ y ∈ [x], Q y := fun x hx y hy => List.mem_singleton.1 hy ▸ hx
  induction budget with
  | zero => exact hp.bind fun x hx => yields_pure (hone x hx)
  | succ budget ih =>
    refine (yields_sees _).andThen fun closed => ?_
    cases closed with
    | true => exact yields_pure fun x hx => absurd hx List.not_mem_nil
    | false =>
      refine hp.bind fun x hx => (yields_eat _).andThen fun more => ?_
      cases more with
      | true =>
        refine ih.bind fun xs hxs => yields_pure fun y hy => ?_
        rcases List.mem_cons.1 hy with rfl | hy
        · exact hx
        · exact hxs y hy
      | false => exact yields_pure (hone x hx)

theorem Yields.listUpTo (hp : Yields T p Q) (close : Mark) :
    Yields T (listUpTo p close) fun xs => ∀ x ∈ xs, Q x :=
  yields_budget.andThen fun budget => (hp.separated close budget).bind fun _ hxs =>
    (yields_expectMark close).andThen fun _ => yields_pure hxs

end Parser
end Syntax
end ScriptImport
