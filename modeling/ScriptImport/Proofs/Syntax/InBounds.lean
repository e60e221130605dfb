/-
# Reading stays in bounds

A head that reads from the start of a source, or from any other place and at any depth, stops with what the source is
or with a fault of the source (`reading_in_bounds`).  No cell is looked at that is not there, no counter at zero is
counted down, and fuel for one round more than there are tokens and levels is never spent.
-/

import ScriptImport.Proofs.Syntax.Productions

namespace ScriptImport
namespace Syntax

open ScriptImport.Syntax.Parser

variable {α : Type} {ts : List Located} {fuel : Nat} {h : Head}

/-- The head and the list read the same from `h`, and the head gets ahead. -/
def ReadAlike (ts : List Located) (fuel : Nat) (h : Head) (w : Walk α) (p : Parser α) : Prop :=
  Agrees ts h advances (w ⟨row ts, fuel⟩ h) (p (ts.drop h.position))

/-- What the productions do from `h` in front of tokens, with the levels that are left there. -/
structure InBounds (ts : List Located) (fuel : Nat) (h : Head) (w : Productions Walk) (p : Level) : Prop where
  item : ReadAlike ts fuel h (item w) (item p)
  statement : ReadAlike ts fuel h (statement w) (statement p)
  nestedStatement : ReadAlike ts fuel h w.statement p.statement
  expression : ReadAlike ts fuel h w.expression p.expression
  arrow : ReadAlike ts fuel h (arrow w) (arrow p)
  conditional : ReadAlike ts fuel h (conditional w) (conditional p)
  operand : ReadAlike ts fuel h (operand w) (operand p)
  postfixed : ReadAlike ts fuel h (postfixed w) (postfixed p)
  primary : ReadAlike ts fuel h (primary w) (primary p)
  block : ReadAlike ts fuel h (block w) (block p)
  params : ReadAlike ts fuel h params params
  array : ReadAlike ts fuel h (listUpTo w.expression .rightBracket) (listUpTo p.expression .rightBracket)
  object : ReadAlike ts fuel h (listUpTo (entry w) .rightBrace) (listUpTo (entry p) .rightBrace)
  /-- Items are read up to the end of the source. -/
  atEnd : ∀ {is : List Item} {h' : Head}, items w fuel ⟨row ts, fuel⟩ h = (.ok is, h') → h'.position = ts.length
  /-- Looking ahead finds what is so, and the head is where it was. -/
  lookAhead : Walk.lookAhead ⟨row ts, fuel⟩ h = (.ok (startsArrow (ts.drop h.position)), h)

/-- Items are read up to the end of the source. -/
theorem position_of_items {s : Setting} {w : Productions Walk} {p : Level} (below : Below s w p) {k rounds : Nat}
    {o : Option Token} (more : k < rounds) {h h' : Head} (here : s.At k o h) {is : List Item}
    (run : items w rounds s.tape h = (.ok is, h')) : h'.position = s.tokens.length := by
  induction rounds generalizing k o h is with
  | zero => omega
  | succ rounds ih =>
    rw [items, Walk.bind_ok (peek_tape here)] at run
    cases o with
    | none =>
      cases run
      have atEnd := List.getElem?_eq_none_iff.1 (Option.map_eq_none_iff.1 here.front)
      exact Nat.le_antisymm here.inside.position atEnd
    | some t =>
      obtain ⟨i, h₁, first, run⟩ := Walk.of_bind_ok run
      obtain ⟨is, h₂, rest, last⟩ := Walk.of_bind_ok run
      obtain ⟨inside, depth, ahead⟩ := (first ▸ follows_item below h here).of_ok
      cases last
      have near := here.near
      have within := inside.position
      change h.position + 1 ≤ h₁.position at ahead
      have there : s.At (k - 1) _ h₁ := ⟨inside, depth.trans here.depth, by omega, rfl⟩
      exact ih (by omega) there rest

/-- All of it follows, since all levels do. -/
theorem inBounds_of_inside (inside : h.Inside ts) (enough : ts.length + maxNesting < fuel) :
    InBounds ts fuel h (Walk.level fuel) (atDepth (maxNesting - h.depth)) := by
  let s : Setting := ⟨ts, fuel, h.depth, by omega⟩
  have shallow : h.depth ≤ maxNesting := Nat.le_trans inside.depth inside.peak
  have below : Below s (Walk.level fuel) (atDepth (maxNesting - h.depth)) :=
    below_level (by show h.depth + _ = _; omega) (by omega)
  have here : s.At ts.length (ts[h.position]?.map (·.token)) h := ⟨inside, rfl, Nat.le_add_left .., rfl⟩
  exact {
    item := follows_item below h here
    statement := follows_statement below h here
    nestedStatement := below.statement h here
    expression := below.expression h here
    arrow := follows_arrow below h here
    conditional := follows_conditional below h here
    operand := follows_operand below h here
    postfixed := follows_postfixed below h here
    primary := follows_primary below h here
    block := follows_block below h here
    params := follows_params h here
    array := follows_listUpTo _ below.expression h here
    object := follows_listUpTo _ (follows_entry below) h here
    atEnd := position_of_items below (s := s) s.enough here
    lookAhead := Walk.lookAhead_row inside.position (by omega) }

/-- A head reads the whole of a source. -/
theorem program_in_bounds (ts : List Located) (fuel : Nat) (enough : ts.length + maxNesting < fuel) :
    Agrees ts ⟨0, 0, 0⟩ stays (Walk.program ⟨row ts, fuel⟩ ⟨0, 0, 0⟩) (program ts) := by
  let s : Setting := ⟨ts, fuel, 0, by omega⟩
  have below : Below s (Walk.level fuel) (atDepth maxNesting) := below_level (Nat.zero_add _) (by omega)
  have follows : Follows s ts.length (ts[0]?.map (·.token)) stays
      (do return ⟨← items (Walk.level fuel) (← Reading.budget)⟩) program :=
    .budget fun n rounds => (follows_items below rounds).andThen fun is => follows_pure rfl
  exact follows ⟨0, 0, 0⟩ ⟨⟨Nat.zero_le _, Nat.le_refl _, Nat.zero_le _⟩, rfl, Nat.le_add_left .., rfl⟩

/-- What a head says of a source is what is so. -/
theorem walk_parse (source : String) : Walk.parse source = .ok (parse source) := by
  unfold Walk.parse parse
  cases tokenize source with
  | error e => rfl
  | ok ts =>
    have agrees := program_in_bounds ts.tokens (ts.tokens.length + maxNesting + 1) (by omega)
    dsimp only [StateT.run]
    generalize Walk.program _ _ = run at agrees ⊢
    generalize program ts.tokens = result at agrees ⊢
    cases agrees <;> rfl

/-- **Reading stays in bounds and ends.** From every place in a row of tokens and at every depth, a production that
succeeds leaves the head further ahead, not behind the end of the source and as deep as it was, and the head has never
been deeper than it may be; looking ahead leaves it where it is.  So a source is a module, or a fault of the source is
found, and a head finds the same as `parse`. -/
theorem reading_in_bounds :
    (∀ (ts : List Located) (h : Head), h.Inside ts → ∀ fuel, ts.length + maxNesting < fuel →
      InBounds ts fuel h (Walk.level fuel) (atDepth (maxNesting - h.depth))) ∧
      ∀ source, Walk.parse source = .ok (parse source) :=
  ⟨fun _ _ inside _ enough => inBounds_of_inside inside enough, walk_parse⟩

/-- Parentheses that are not closed, read from the second one and with one level left, or looked through from the
first one. -/
theorem reading_in_bounds_unclosed :
    let place (t : Token) : Located := ⟨t, ⟨0, 0, 1, 1⟩⟩
    let ts := [Token.mark .leftParen, .identifier "a", .mark .leftParen, .identifier "b"].map place
    let h : Head := ⟨2, 127, 127⟩
    h.Inside ts ∧ InBounds ts 200 h (Walk.level 200) (atDepth 1) ∧
      ((Walk.level 200).expression ⟨row ts, 200⟩ h).2 = ⟨3, 127, 128⟩ ∧
      (Walk.lookAhead ⟨row ts, 200⟩ ⟨0, 0, 0⟩).2 = ⟨0, 0, 0⟩ ∧
      Walk.parse "(a(b" = .ok (parse "(a(b") ∧ (parse "(a(b").isOk = false := by
  intro place ts h
  have inside : h.Inside ts := ⟨by decide, by decide, by decide⟩
  exact ⟨inside, reading_in_bounds.1 ts h inside 200 (by decide), by decide +kernel, by decide +kernel,
    reading_in_bounds.2 "(a(b", by decide +kernel⟩

end Syntax
end ScriptImport
