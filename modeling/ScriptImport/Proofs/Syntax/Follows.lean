/-
# A head follows a list

`Agrees` says that a head and a list come to the same: the same result, and what is left of the list is what the head
still has in front of it, or the same fault at the same token.  `Follows` says it of a production, wherever in the row
the head is, and by how many cells the head gets ahead at least.  There is a rule for each way in which productions are
put together.

A production is the same code for both, so a rule is about two runs of the same step.  Only loops differ: a list gives
as many rounds as it has tokens left, a head as many as its fuel allows.  So `Follows` also bounds how many tokens are
left, and where none is left the head may look once more than the list (`Follows.peekLeft`).
-/

import ScriptImport.Proofs.Syntax.Head

namespace ScriptImport
namespace Syntax

open ScriptImport.Syntax.Parser

/-- A head in front of a cell, and never deeper than reading may go. -/
structure Head.Inside (ts : List Located) (h : Head) : Prop where
  position : h.position ≤ ts.length
  depth : h.depth ≤ h.peak
  peak : h.peak ≤ maxNesting

/-- What has become of a head that was at `h`, and of the list of the tokens that were in front of it: the result `a`,
where the head is `due a` cells ahead or more, or a fault; the head is as deep as it was. -/
inductive Agrees {α : Type} (ts : List Located) (h : Head) (due : α → Nat) :
    Except Halt α × Head → Except Failure (α × List Located) → Prop
  | ok {a : α} {h' : Head} (inside : h'.Inside ts) (depth : h'.depth = h.depth)
      (ahead : h.position + due a ≤ h'.position) :
      Agrees ts h due (.ok a, h') (.ok (a, ts.drop h'.position))
  | fault {f : Failure} {h' : Head} (inside : h'.Inside ts) (depth : h'.depth = h.depth)
      (ahead : h.position ≤ h'.position) :
      Agrees ts h due (.error (.fault f), h') (.error f)

theorem Agrees.of_ok {α : Type} {ts : List Located} {h h' : Head} {due : α → Nat} {x : α}
    {result : Except Failure (α × List Located)} (agrees : Agrees ts h due (.ok x, h') result) :
    h'.Inside ts ∧ h'.depth = h.depth ∧ h.position + due x ≤ h'.position := by
  cases agrees with
  | ok inside depth ahead => exact ⟨inside, depth, ahead⟩

/-- What does not change while the productions of one level read: the tokens, fuel for more rounds than there are
tokens, and how deep the level is. -/
structure Setting where
  tokens : List Located
  fuel : Nat
  depth : Nat
  enough : tokens.length < fuel

namespace Setting

variable (s : Setting)

/-- The tape of the tokens. -/
def tape : Tape := ⟨row s.tokens, s.fuel⟩

/-- The setting one level further down. -/
def below : Setting := { s with depth := s.depth + 1 }

/-- A head at this depth in front of the token `o`, or of the end of the source if `o` is none, and of at most `k`
tokens altogether. -/
structure At (k : Nat) (o : Option Token) (h : Head) : Prop where
  inside : h.Inside s.tokens
  depth : h.depth = s.depth
  near : s.tokens.length ≤ h.position + k
  front : s.tokens[h.position]?.map (·.token) = o

end Setting

/-- A head that is in front of `o`, and of at most `k` tokens altogether, follows a list. -/
def Follows {α : Type} (s : Setting) (k : Nat) (o : Option Token) (due : α → Nat) (w : Walk α) (p : Parser α) :
    Prop :=
  ∀ h, s.At k o h → Agrees s.tokens h due (w s.tape h) (p (s.tokens.drop h.position))

/-- Whatever is read, the head is one cell ahead. -/
def advances {α : Type} (_ : α) : Nat := 1

/-- The head may be where it was. -/
def stays {α : Type} (_ : α) : Nat := 0

variable {α β : Type} {s : Setting} {k : Nat} {o : Option Token} {w : Walk α} {p : Parser α} {w' : α → Walk β}
  {p' : α → Parser β} {a b : α → Nat} {c : β → Nat}

/-! ### Putting productions together -/

/-- What is due for a result that is there already can only be nothing. -/
theorem follows_pure {x : α} (nothing : a x = 0) : Follows s k o a (pure x) (pure x) := fun h here =>
  .ok here.inside rfl (Nat.le_of_eq (by rw [nothing, Nat.add_zero]))

theorem Agrees.mono {ts : List Located} {h : Head} {run : Except Halt α × Head}
    {result : Except Failure (α × List Located)} (agrees : Agrees ts h b run result) (less : ∀ x, a x ≤ b x) :
    Agrees ts h a run result := by
  cases agrees with
  | ok inside depth ahead => exact .ok inside depth (Nat.le_trans (Nat.add_le_add_left (less _) _) ahead)
  | fault inside depth ahead => exact .fault inside depth ahead

theorem Follows.mono (first : Follows s k o b w p) (less : ∀ x, a x ≤ b x) : Follows s k o a w p := fun h here =>
  (first h here).mono less

theorem Follows.stays (first : Follows s k o a w p) : Follows s k o stays w p := first.mono fun _ => Nat.zero_le _

/-- **Productions compose:** the second one goes on where the head is ahead by what is due for the first one. -/
theorem Follows.bind (first : Follows s k o a w p)
    (second : ∀ x, a x ≤ k → ∀ {o'}, Follows s (k - a x) o' (fun y => c y - a x) (w' x) (p' x)) :
    Follows s k o c (w >>= w') (p >>= p') := by
  intro h here
  have near := here.near
  have agrees := first h here
  generalize hw : w s.tape h = run at agrees
  generalize hp : p (s.tokens.drop h.position) = result at agrees
  cases agrees with
  | fault inside depth ahead =>
    rw [Walk.bind_error hw, bind_of_error hp]
    exact .fault inside depth ahead
  | @ok x h' inside depth ahead =>
    rw [Walk.bind_ok hw, bind_of_ok hp]
    have within := inside.position
    have there : s.At (k - a x) _ h' := ⟨inside, depth.trans here.depth, by omega, rfl⟩
    have agrees := second x (by omega) h' there
    generalize w' x s.tape h' = run' at agrees ⊢
    generalize p' x (s.tokens.drop h'.position) = result' at agrees ⊢
    cases agrees with
    | ok inside' depth' ahead' => exact .ok inside' (depth'.trans depth) (by omega)
    | fault inside' depth' ahead' => exact .fault inside' (depth'.trans depth) (by omega)

/-- The first production gets ahead, so the second one need not. -/
theorem Follows.next (first : Follows s k o advances w p)
    (second : ∀ x {o'}, Follows s (k - 1) o' Syntax.stays (w' x) (p' x)) :
    Follows s k o advances (w >>= w') (p >>= p') := first.bind fun x _ => second x

/-- The first production may stay where it is, and what is due is left to the second one. -/
theorem Follows.andThen (first : Follows s k o a w p) (second : ∀ x {o'}, Follows s k o' c (w' x) (p' x)) :
    Follows s k o c (w >>= w') (p >>= p') := first.stays.bind fun x _ => second x

/-- A round of a loop: there was a token, and there is one less for the rounds that follow. -/
theorem Follows.round (first : Follows s k o advances w p)
    (second : ∀ x, 0 < k → ∀ {o'}, Follows s (k - 1) o' Syntax.stays (w' x) (p' x)) :
    Follows s k o Syntax.stays (w >>= w') (p >>= p') := first.bind second

/-! ### Looking and passing over -/

theorem follows_fail (fault : Fault) : Follows s k o a (fail fault) (fail fault) := by
  intro h here
  have failed := Walk.stopAt_row (α := α) s.fuel fault here.inside.position
  show Agrees _ _ _ (Walk.stopAt fault s.tape h) (.error ⟨fault, (s.tokens.drop h.position).head?⟩)
  rw [Setting.tape, failed, List.head?_drop]
  exact .fault here.inside rfl (Nat.le_refl _)

/-- Behind a failure, the head reads no further. -/
theorem Follows.failLeft {fault : Fault} : Follows s k o c (fail fault >>= w') (fail fault) := by
  intro h here
  have agrees := follows_fail (a := c) fault h here
  have failed := Walk.stopAt_row (α := α) s.fuel fault here.inside.position
  have failed' := Walk.stopAt_row (α := β) s.fuel fault here.inside.position
  change (fail fault : Walk α) s.tape h = _ at failed
  change (fail fault : Walk β) s.tape h = _ at failed'
  rw [Walk.bind_error failed, ← failed']
  exact agrees

/-- The head looks and stays where it is. -/
theorem Follows.lookLeft {x : α} {p : Parser β} (seen : ∀ {h}, s.At k o h → w s.tape h = (.ok x, h))
    (rest : Follows s k o c (w' x) p) : Follows s k o c (w >>= w') p := by
  intro h here
  rw [Walk.bind_ok (seen here)]
  exact rest h here

/-- Both look, see the same and stay where they are. -/
theorem Follows.look {x : α} (seen : ∀ {h}, s.At k o h → w s.tape h = (.ok x, h))
    (same : ∀ {h}, s.At k o h → p (s.tokens.drop h.position) = .ok (x, s.tokens.drop h.position))
    (rest : Follows s k o c (w' x) (p' x)) : Follows s k o c (w >>= w') (p >>= p') := by
  refine .lookLeft seen fun h here => ?_
  rw [bind_of_ok (same here)]
  exact rest h here

theorem peek_tape {h : Head} (here : s.At k o h) : (peek : Walk _) s.tape h = (.ok o, h) := by
  rw [← here.front]
  exact Walk.tokenAt_row here.inside.position

theorem peek_drop {h : Head} (here : s.At k o h) :
    (peek : Parser _) (s.tokens.drop h.position) = .ok (o, s.tokens.drop h.position) := by
  rw [← here.front, ← List.head?_drop]
  rfl

section Peek

variable {w' : Option Token → Walk β} {p' : Option Token → Parser β}

theorem Follows.peek (rest : Follows s k o c (w' o) (p' o)) : Follows s k o c (peek >>= w') (peek >>= p') :=
  .look peek_tape peek_drop rest

theorem Follows.peekLeft {p : Parser β} (rest : Follows s k o c (w' o) p) : Follows s k o c (Parser.peek >>= w') p :=
  .lookLeft peek_tape rest

end Peek

section Sees

variable {q : Token → Bool} {w' : Bool → Walk β} {p' : Bool → Parser β}

theorem sees_tape {h : Head} (here : s.At k o h) : (sees q : Walk _) s.tape h = (.ok (o.any q), h) :=
  Walk.bind_ok (peek_tape here)

theorem Follows.sees (rest : Follows s k o c (w' (o.any q)) (p' (o.any q))) :
    Follows s k o c (sees q >>= w') (sees q >>= p') :=
  .look sees_tape (fun here => bind_of_ok (peek_drop here)) rest

theorem follows_sees : Follows s k o stays (sees q) (sees q) := .peek (follows_pure rfl)

theorem Follows.seesLeft {p : Parser β} (rest : Follows s k o c (w' (o.any q)) p) :
    Follows s k o c (Parser.sees q >>= w') p := .lookLeft sees_tape rest

end Sees

/-- No token is in front of a head that has none left. -/
theorem Follows.atEnd (rest : Follows s 0 none a w p) : Follows s 0 o a w p := fun h here =>
  have none := List.getElem?_eq_none here.near
  rest h ⟨here.inside, here.depth, here.near, by rw [← Nat.add_zero h.position, none]; rfl⟩

/-- Without tokens, the head does not move either. -/
theorem follows_skip : Follows s k o (fun _ => o.isSome.toNat) skip skip := by
  intro h here
  have within := here.inside.position
  have moved := Walk.advance_row s.fuel within
  show Agrees _ _ _ (Walk.advance s.tape h) (.ok ((), (s.tokens.drop h.position).tail))
  rw [Setting.tape, moved, List.tail_drop]
  rcases Nat.lt_or_eq_of_le within with token | atEnd
  · rw [Nat.min_eq_left token]
    exact .ok ⟨token, here.inside.depth, here.inside.peak⟩ rfl (Nat.add_le_add_left (Bool.toNat_le _) _)
  · have none := here.front
    rw [List.getElem?_eq_none (Nat.le_of_eq atEnd.symm)] at none
    rw [Nat.min_eq_right (by omega), List.drop_eq_nil_of_le (by omega), ← List.drop_length (l := s.tokens), ← none]
    exact .ok ⟨Nat.le_refl _, here.inside.depth, here.inside.peak⟩ rfl within

theorem follows_skip_token (present : o.isSome) : Follows s k o advances skip skip :=
  follows_skip.mono fun _ => Nat.le_of_eq (by rw [present]; rfl)

/-- A token that is in front is passed over. -/
theorem Follows.skip {w' : Unit → Walk β} {p' : Unit → Parser β} (present : o.isSome)
    (rest : ∀ {o'}, Follows s (k - 1) o' Syntax.stays (w' ()) (p' ())) :
    Follows s k o advances (skip >>= w') (skip >>= p') := (follows_skip_token present).next fun _ => rest

theorem follows_eat (q : Token → Bool) : Follows s k o Bool.toNat (eat q) (eat q) := by
  refine .sees ?_
  split
  case isTrue found =>
    have present : o.isSome := by
      cases o with
      | none => cases found
      | some t => rfl
    exact (follows_skip_token present).bind fun _ _ => follows_pure rfl
  case isFalse => exact follows_pure rfl

/-- A loop that has at most `k` tokens in front of it may take this many rounds, for a head and for a list: without
tokens a list gives none, and otherwise one round leaves enough of them for fewer tokens. -/
inductive Rounds : (k rounds budget : Nat) → Prop
  | last {m : Nat} : Rounds 0 (m + 1) 0
  | round {k m n : Nat} (fewer : ∀ k', k' < k → Rounds k' m n) : Rounds k (m + 1) (n + 1)

theorem rounds_of_le {k rounds budget : Nat} (enough : k ≤ budget) (more : k < rounds) : Rounds k rounds budget := by
  induction rounds generalizing k budget with
  | zero => omega
  | succ rounds ih =>
    cases budget with
    | zero =>
      obtain rfl := Nat.le_zero.1 enough
      exact .last
    | succ budget => exact .round fun k' less => ih (by omega) (by omega)

/-- A loop starts: a list gives it as many rounds as there are tokens, a head more than that. -/
theorem Follows.budget {w' : Nat → Walk β} {p' : Nat → Parser β}
    (loop : ∀ n, Rounds n s.fuel n → Follows s n o c (w' s.fuel) (p' n)) :
    Follows s k o c (budget >>= w') (budget >>= p') := by
  intro h here
  have seen : (Parser.budget : Walk Nat) s.tape h = (.ok s.fuel, h) := rfl
  have same : (Parser.budget : Parser Nat) (s.tokens.drop h.position) =
      .ok (s.tokens.length - h.position, s.tokens.drop h.position) := by
    rw [← List.length_drop]
    rfl
  have enough := s.enough
  rw [Walk.bind_ok seen, bind_of_ok same]
  exact loop _ (rounds_of_le (Nat.le_refl _) (by omega)) h ⟨here.inside, here.depth, by omega, here.front⟩

theorem follows_arrowAhead : Follows s k o stays arrowAhead arrowAhead := by
  intro h here
  have found : (arrowAhead : Walk Bool) s.tape h = (.ok (startsArrow (s.tokens.drop h.position)), h) :=
    Walk.lookAhead_row here.inside.position (Nat.lt_of_lt_of_le s.enough (Nat.le_add_left ..))
  rw [found]
  exact .ok here.inside rfl (Nat.le_refl _)

/-! ### One level down -/

theorem Head.Inside.deeper {h : Head} (inside : h.Inside s.tokens) (shallow : h.depth < maxNesting) :
    h.deeper.Inside s.tokens := ⟨inside.position, Nat.le_max_right .., Nat.max_le.2 ⟨inside.peak, shallow⟩⟩

theorem Head.Inside.up {h : Head} {depth : Nat} (inside : h.Inside s.tokens) (less : depth ≤ h.depth) :
    Head.Inside s.tokens { h with depth := depth } := ⟨inside.position, Nat.le_trans less inside.depth, inside.peak⟩

/-- **A level is left as it was entered:** if the production follows one level further down, it follows here. -/
theorem Follows.nested (shallow : s.depth < maxNesting) (inner : Follows s.below k o a w p) :
    Follows s k o a (Walk.nested w) p := by
  intro h here
  have shallow : h.depth < maxNesting := here.depth ▸ shallow
  have agrees := inner h.deeper ⟨here.inside.deeper shallow, congrArg (· + 1) here.depth, here.near, here.front⟩
  generalize hw : w s.below.tape h.deeper = run at agrees
  change Agrees _ _ _ run (p (s.tokens.drop h.position)) at agrees
  generalize p (s.tokens.drop h.position) = result at agrees ⊢
  cases agrees with
  | ok inside depth ahead =>
    have back := Walk.nested_of_outcome shallow (Walk.outcome_ok hw) depth
    change Walk.nested w s.tape h = _ at back
    rw [back]
    exact Agrees.ok (inside.up (by rw [depth]; exact Nat.le_succ _)) rfl ahead
  | fault inside depth ahead =>
    have back := Walk.nested_of_outcome shallow (Walk.outcome_fault hw) depth
    change Walk.nested w s.tape h = _ at back
    rw [back]
    exact .fault (inside.up (by rw [depth]; exact Nat.le_succ _)) rfl ahead

/-- With no level left, nothing is read. -/
theorem follows_tooDeep (deepest : maxNesting ≤ s.depth) : Follows s k o a (Walk.nested w) (fail .tooDeep) := by
  intro h here
  have failed := Walk.nested_tooDeep (w := w) s.fuel (here.depth ▸ deepest) here.inside.position
  show Agrees _ _ _ (Walk.nested w s.tape h) (.error ⟨.tooDeep, (s.tokens.drop h.position).head?⟩)
  rw [Setting.tape, failed, List.head?_drop]
  exact .fault here.inside rfl (Nat.le_refl _)

end Syntax
end ScriptImport
