/-
# The winner of a race

Which branch settles a race depends only on how often each is pending and on what it comes to (`winner`).  As long as
both are under way, a poll of each takes away from both alike; once one has failed, the other one decides
(`Decided`).  One round keeps what the race comes to and is no misuse (`Decided.round`), so a race comes to the result
of its winner (`settles_for_winner`).  What is fetched is the result of such a race between the cache, which is ready
at once, and the network (`Fetcher.obtain_isRace`).
-/

import ScriptImport.Fetch.Race
import ScriptImport.Proofs.Fetch.Call

namespace ScriptImport
namespace Race

variable {ε α : Type} {s : State ε α} {result : Except ε α}

/-- The result of two branches that are pending so many times each.  The first success wins, and the first branch wins
a tie.  Without a success it is the failure that comes last, in a tie that of the second branch. -/
def winner (polls₁ polls₂ : Nat) : (result₁ result₂ : Except ε α) → Except ε α
  | .ok a, .ok b => if polls₁ ≤ polls₂ then .ok a else .ok b
  | .ok a, .error _ => .ok a
  | .error _, .ok b => .ok b
  | .error e₁, .error e₂ => if polls₁ ≤ polls₂ then .error e₂ else .error e₁

theorem winner_succ (n m : Nat) (r₁ r₂ : Except ε α) : winner (n + 1) (m + 1) r₁ r₂ = winner n m r₁ r₂ := by
  cases r₁ <;> cases r₂ <;> simp [winner]

/-- A first branch that is ready at once and fails leaves the race to the second one. -/
theorem winner_zero_error (m : Nat) (e : ε) (r : Except ε α) : winner 0 m (.error e) r = r := by
  cases r <;> simp [winner]

/-- A first branch that is ready at once and succeeds wins. -/
theorem winner_zero_ok (m : Nat) (a : α) (r : Except ε α) : winner 0 m (.ok a) r = .ok a := by
  cases r <;> simp [winner]

/-- A second branch that is ready before the first one and fails leaves the race to it. -/
theorem winner_error_zero (n : Nat) (r : Except ε α) (e : ε) : winner (n + 1) 0 r (.error e) = r := by
  cases r <;> simp [winner]

/-- A second branch that is ready before the first one and succeeds wins. -/
theorem winner_ok_zero (n : Nat) (r : Except ε α) (a : α) : winner (n + 1) 0 r (.ok a) = .ok a := by
  cases r <;> simp [winner]

/-- A race is under way and is going to come to a result: both branches are left, or one of them. -/
inductive Decided : State ε α → Except ε α → Prop where
  | both (n m : Nat) (r₁ r₂ : Except ε α) :
    Decided ⟨.waiting n r₁, .waiting m r₂, false, false⟩ (winner n m r₁ r₂)
  | first (n : Nat) (r : Except ε α) : Decided ⟨.waiting n r, .ended, false, true⟩ r
  | second (m : Nat) (r : Except ε α) : Decided ⟨.ended, .waiting m r, true, false⟩ r

/-- A round is the last one and has the result of the race, or the race goes on to that result. -/
def Round.LeadsTo (r : Round ε α) (result : Except ε α) : Prop :=
  r = .done result ∨ ∃ s', r.next? = some s' ∧ Decided s' result

/-- **A round keeps what a race comes to** and polls only what can be polled. -/
theorem Decided.round (h : Decided s result) : ∃ r, s.round = .ok r ∧ r.LeadsTo result := by
  cases h with
  | first n =>
    cases n with
    | zero => cases result <;> exact ⟨_, rfl, .inl rfl⟩
    | succ n => exact ⟨_, rfl, .inr ⟨_, rfl, .first n result⟩⟩
  | second m =>
    cases m with
    | zero => cases result <;> exact ⟨_, rfl, .inl rfl⟩
    | succ m => exact ⟨_, rfl, .inr ⟨_, rfl, .second m result⟩⟩
  | both n m r₁ r₂ =>
    cases n with
    | zero =>
      cases r₁ with
      | ok a => exact ⟨_, rfl, .inl (congrArg Round.done (winner_zero_ok m a r₂).symm)⟩
      | error e =>
        rw [winner_zero_error]
        exact ⟨_, rfl, .inr ⟨_, rfl, .second m r₂⟩⟩
    | succ n =>
      cases m with
      | zero =>
        cases r₂ with
        | ok b => exact ⟨_, rfl, .inl (congrArg Round.done (winner_ok_zero n r₁ b).symm)⟩
        | error e =>
          -- the first branch is polled again at once, so it is ahead by one poll, but nothing is left to race with
          rw [winner_error_zero]
          exact ⟨_, rfl, .inr ⟨_, rfl, .first n r₁⟩⟩
      | succ m =>
        rw [winner_succ]
        exact ⟨_, rfl, .inr ⟨_, rfl, .both n m r₁ r₂⟩⟩

/-- **A race that is going to come to a result comes to it.** -/
theorem Decided.finish (h : Decided s result) : s.finish = .ok result := by
  -- round by round, as the race runs
  fun_induction State.finish s with
  | case1 s m hround =>
    obtain ⟨r, hr, -⟩ := h.round
    cases hround.symm.trans hr
  | case2 s result' hround =>
    obtain ⟨r, hr, rfl | ⟨s', hnext, -⟩⟩ := h.round
    · cases hround.symm.trans hr
      rfl
    · cases hround.symm.trans hr
      cases hnext
  | case3 s race hround ih =>
    obtain ⟨r, hr, rfl | ⟨s', hnext, hs'⟩⟩ := h.round
    · cases hround.symm.trans hr
    · cases hround.symm.trans hr
      cases hnext
      exact ih hs'
  | case4 s race hround ih =>
    obtain ⟨r, hr, rfl | ⟨s', hnext, hs'⟩⟩ := h.round
    · cases hround.symm.trans hr
    · cases hround.symm.trans hr
      cases hnext
      exact ih hs'

theorem run_waiting (n m : Nat) (r₁ r₂ : Except ε α) :
    run (.waiting n r₁) (.waiting m r₂) = some (winner n m r₁ r₂) := by
  rw [run, (Decided.both n m r₁ r₂).finish]
  rfl

/-- **A race settles for the first success, or else for the last failure.**  Whenever its branches are ready and
whatever they come to, it ends, it does not poll a branch that has ended, and it always has one left to poll. -/
theorem settles_for_winner (polls₁ polls₂ : Nat) (result₁ result₂ : Except ε α) :
    State.finish ⟨.waiting polls₁ result₁, .waiting polls₂ result₂, false, false⟩
        = .ok (winner polls₁ polls₂ result₁ result₂) ∧
      run (.waiting polls₁ result₁) (.waiting polls₂ result₂) = some (winner polls₁ polls₂ result₁ result₂) :=
  ⟨(Decided.both polls₁ polls₂ result₁ result₂).finish, run_waiting polls₁ polls₂ result₁ result₂⟩

end Race

namespace Fetcher

/-- What the cache comes to in the race with the network. -/
def cachedResult (x : Fetcher) (f : Files) (url : Url) : Except FetchError Fetched :=
  match (x.cache.lookup f url.text).1 with
  | .ok e => .ok ⟨url, .cache, none, e.body⟩
  | .error _ => .error ⟨url, .notCached⟩

/-- **Obtaining a text is a race** of the cache, which is ready when it is polled, and the network, which may be pending
any number of times. -/
theorem obtain_isRace (x : Fetcher) {url : Url} (hurl : url.scheme = "http" ∨ url.scheme = "https") (w : Web) :
    ∃ events, ∀ polls, Race.run (.waiting 0 (x.cachedResult w.files url))
        (.waiting polls (x.refresh url (x.settle { w with events }).2).1) = some (x.obtain url w).1 := by
  unfold cachedResult
  cases hlookup : (x.cache.lookup w.files url.text).1 with
  | ok e =>
    refine ⟨w.events, fun polls => ?_⟩
    have hobtain : (x.obtain url w).1 = .ok ⟨url, .cache, none, e.body⟩ := by
      obtain ⟨_, hfetch⟩ := x.fetch_eq url w
      obtain ⟨_, hrun⟩ := x.fetch_of_lookup_ok hurl hlookup
      exact (congrArg Prod.fst hfetch).symm.trans (congrArg Prod.fst hrun)
    rw [Race.run_waiting, hobtain, Race.winner_zero_ok]
  | error e =>
    obtain ⟨events, hobtain⟩ := x.obtain_of_lookup_error hurl hlookup
    refine ⟨events, fun polls => ?_⟩
    rw [Race.run_waiting, hobtain, Race.winner_zero_error]

end Fetcher
end ScriptImport
