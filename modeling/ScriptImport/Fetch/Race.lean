/-
# A race that one failure does not end

Two branches are polled until one of them succeeds.  A branch that fails leaves the race to the other
one, and if both fail, the error of the one that failed last is the result.  The first branch is polled
before the second one, so it wins a tie, and in a tie of failures the second one fails last.

Two things must not happen to a race: that it polls a branch which has ended, and that it goes on when there
is no branch left to poll.  A run that does so comes to a `Misuse` and to no result.
-/

namespace ScriptImport
namespace Race

variable {ε α : Type}

/-- A branch of the race: it is pending the next `polls` times it is polled and ready the time after
that, or it has ended, as its result has been taken. -/
inductive Branch (ε α : Type) where
  | waiting (polls : Nat) (result : Except ε α)
  | ended

/-- What must not happen. -/
inductive Misuse where
  /-- A branch is polled that has ended. -/
  | polledAgain
  /-- Both branches have failed, and the race goes on. -/
  | nothingToPoll
  deriving DecidableEq, Repr

/-- What polling a branch shows: that it has its result, or the branch that is still pending. -/
inductive Polled (ε α : Type) where
  | ready (result : Except ε α)
  | pending (branch : Branch ε α)

namespace Branch

/-- Polls a branch. -/
def poll : Branch ε α → Except Misuse (Polled ε α)
  | waiting 0 result => .ok (.ready result)
  | waiting (polls + 1) result => .ok (.pending (.waiting polls result))
  | ended => .error .polledAgain

/-- How many times a branch can still be polled. -/
def left : Branch ε α → Nat
  | waiting polls _ => polls + 1
  | ended => 0

theorem left_of_poll {b b' : Branch ε α} (h : b.poll = .ok (.pending b')) : b'.left < b.left := by
  match b, h with
  | waiting (_ + 1) _, rfl => exact Nat.lt_succ_self _

theorem left_pos_of_poll {b : Branch ε α} {p : Polled ε α} (h : b.poll = .ok p) : 0 < b.left := by
  cases b with
  | waiting => exact Nat.succ_pos _
  | ended => cases h

end Branch

/-- A race under way.  A branch that has failed is not polled. -/
structure State (ε α : Type) where
  first : Branch ε α
  second : Branch ε α
  firstFailed : Bool
  secondFailed : Bool

/-- What one round of polling leads to. -/
inductive Round (ε α : Type) where
  /-- The race is over. -/
  | done (result : Except ε α)
  /-- A branch has failed and the other one goes on, at once. -/
  | again (race : State ε α)
  /-- Everything that was polled is pending. -/
  | pending (race : State ε α)

/-- The race that goes on after a round. -/
def Round.next? : Round ε α → Option (State ε α)
  | done _ => none
  | again race => some race
  | pending race => some race

namespace State

/-- How many times the branches can still be polled. -/
def left (s : State ε α) : Nat := s.first.left + s.second.left

/-- Polls the second branch, unless it has failed, when nothing has come from the first one. -/
def pollSecond (s : State ε α) : Except Misuse (Round ε α) :=
  if s.secondFailed then
    if s.firstFailed then .error .nothingToPoll else .ok (.pending s)
  else
    match s.second.poll with
    | .error m => .error m
    | .ok (.pending second) => .ok (.pending { s with second })
    | .ok (.ready (.ok a)) => .ok (.done (.ok a))
    | .ok (.ready (.error e)) =>
      .ok (if s.firstFailed then .done (.error e) else .again { s with second := .ended, secondFailed := true })

/-- Polls the branches that have not failed, the first one first, up to one that is ready. -/
def round (s : State ε α) : Except Misuse (Round ε α) :=
  if s.firstFailed then s.pollSecond
  else
    match s.first.poll with
    | .error m => .error m
    | .ok (.pending first) => pollSecond { s with first }
    | .ok (.ready (.ok a)) => .ok (.done (.ok a))
    | .ok (.ready (.error e)) =>
      .ok (if s.secondFailed then .done (.error e) else .again { s with first := .ended, firstFailed := true })

variable {s s' : State ε α} {r : Round ε α}

theorem left_of_pollSecond (h : s.pollSecond = .ok r) (hr : r.next? = some s') :
    s'.left < s.left ∨ s'.left = s.left ∧ s.firstFailed = false := by
  unfold pollSecond at h
  split at h
  · split at h
    · cases h
    · next hfirst =>
      cases h
      cases hr
      exact .inr ⟨rfl, Bool.eq_false_iff.2 hfirst⟩
  · split at h
    · cases h
    · next hpoll =>
      cases h
      cases hr
      exact .inl (Nat.add_lt_add_left (Branch.left_of_poll hpoll) _)
    · cases h
      cases hr
    · next hpoll =>
      cases h
      split at hr
      · cases hr
      · cases hr
        exact .inl (Nat.add_lt_add_left (Branch.left_pos_of_poll hpoll) _)

/-- A round that does not end the race uses up polls. -/
theorem left_of_round (h : s.round = .ok r) (hr : r.next? = some s') : s'.left < s.left := by
  unfold round at h
  split at h
  · next hfirst =>
    rcases left_of_pollSecond h hr with hlt | ⟨-, hnot⟩
    · exact hlt
    · rw [hfirst] at hnot
      cases hnot
  · split at h
    · cases h
    · next hpoll =>
      refine Nat.lt_of_le_of_lt ?_ (Nat.add_lt_add_right (Branch.left_of_poll hpoll) s.second.left)
      rcases left_of_pollSecond h hr with hlt | ⟨hsame, -⟩
      · exact Nat.le_of_lt hlt
      · exact Nat.le_of_eq hsame
    · cases h
      cases hr
    · next hpoll =>
      cases h
      split at hr
      · cases hr
      · cases hr
        exact Nat.add_lt_add_right (Branch.left_pos_of_poll hpoll) _

/-- Runs a race round by round to its result. -/
def finish (s : State ε α) : Except Misuse (Except ε α) :=
  match _h : s.round with
  | .error m => .error m
  | .ok (.done result) => .ok result
  | .ok (.again race) => race.finish
  | .ok (.pending race) => race.finish
termination_by s.left
decreasing_by
  · exact left_of_round _h rfl
  · exact left_of_round _h rfl

end State

/-- Races two branches; there is no result if that is a misuse. -/
def run (first second : Branch ε α) : Option (Except ε α) := (State.finish ⟨first, second, false, false⟩).toOption

end Race
end ScriptImport
