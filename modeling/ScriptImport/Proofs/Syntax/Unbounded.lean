/-
# Trees without a bound

`x.x.x…` is one level deep however long it is: what stands behind a point is read by a loop.  Its tree has as many
steps to the left as the source has points, so there is no bound for the height of the trees that are read
(`height_unbounded`).
-/

import ScriptImport.Proofs.Syntax.Height
import ScriptImport.Proofs.Syntax.ReadBack
import ScriptImport.Proofs.Syntax.Tiling

namespace ScriptImport
namespace Syntax

open Syntax.Parser

/-- The text `.x`, `n` times. -/
def pointedText : (n : Nat) → List Char
  | 0 => []
  | n + 1 => '.' :: 'x' :: pointedText n

/-- The tokens of `pointedText`. -/
def pointedTokens : (n : Nat) → List Token
  | 0 => []
  | n + 1 => .mark .dot :: .identifier "x" :: pointedTokens n

theorem le_length_pointedTokens (n : Nat) : n ≤ (pointedTokens n).length := by
  induction n with
  | zero => exact Nat.le_refl _
  | succ n ih =>
    rw [pointedTokens, List.length_cons, List.length_cons]
    omega

/-- The member `x` of the member `x` of …, `n` times. -/
def Expr.pointed (e : Expr) : (n : Nat) → Expr
  | 0 => e
  | n + 1 => (e.member "x").pointed n

theorem Expr.heightBy_pointed (left : Nat) (e : Expr) (n : Nat) :
    (e.pointed n).heightBy left = e.heightBy left + n * left := by
  induction n generalizing e with
  | zero => simp [pointed]
  | succ n ih =>
    rw [pointed, ih, heightBy, Nat.succ_mul]
    omega

/-! ### Tokens -/

theorem scan_lexeme {p : Position} {c : Char} {cs text rest : List Char} {token : Token} {ts : List Located}
    (hgap : gap? (c :: cs) = none) (hfront : front c cs = .lexeme token text rest)
    (hrest : scan (p.afterAll text) rest = .ok ts) : scan p (c :: cs) = .ok (⟨token, p.span text⟩ :: ts) := by
  rw [scan_front hgap hfront, hrest]
  rfl

/-- A name that ends in front of a point, or at the end of the source. -/
theorem front_x (n : Nat) : front 'x' (pointedText n) = .lexeme (.identifier "x") ['x'] (pointedText n) := by
  cases n <;> rfl

theorem scan_pointed (p : Position) (n : Nat) :
    ∃ ts, scan p (pointedText n) = .ok ts ∧ ts.map (·.token) = pointedTokens n := by
  induction n generalizing p with
  | zero => exact ⟨[], by rw [pointedText, scan], rfl⟩
  | succ n ih =>
    obtain ⟨ts, hts, htokens⟩ := ih ((p.afterAll ['.']).afterAll ['x'])
    refine ⟨_, scan_lexeme rfl rfl (scan_lexeme rfl (front_x n) hts), ?_⟩
    rw [List.map_cons, List.map_cons, htokens, pointedTokens]

/-! ### Trees -/

variable {inner : Level} {e : Expr}

theorem reads_applied_pointed {n k : Nat} (h : n ≤ k) :
    Reads (Behind []) (applied inner k e) (pointedTokens n) (e.pointed n) True := by
  induction n generalizing e k with
  | zero => exact reads_applied_end k
  | succ n ih =>
    obtain ⟨k, rfl⟩ := Nat.exists_eq_add_one.2 (Nat.lt_of_lt_of_le (Nat.zero_lt_succ n) h)
    exact reads_applied_member (x := "x") (ih (Nat.le_of_succ_le_succ h))

theorem reads_postfixed_pointed (n : Nat) :
    Reads (Behind []) (postfixed inner) (.identifier "x" :: pointedTokens n) ((Expr.name "x").pointed n) True := by
  have hname : Reads (fun _ => True) (primary inner) [.identifier "x"] (.name "x") True :=
    .peek (.next reads_skip reads_pure)
  cases n with
  | zero => exact reads_postfixed hname
  | succ n =>
    refine .iff (reads_postfixed_applied (t := .mark .dot) hname rfl fun k hk => ?_) (true_and _).to_iff
    have hn : n ≤ k := Nat.le_trans (le_length_pointedTokens n) (Nat.le_of_succ_le hk)
    exact reads_applied_pointed (Nat.succ_le_succ hn)

theorem reads_pointed (n : Nat) :
    Reads Ends (assignment inner) (.identifier "x" :: pointedTokens n) ((Expr.name "x").pointed n) True := by
  have hstart : NoArrow (.identifier "x" :: pointedTokens n) := noArrow_name fun o ho => by
    cases n with
    | zero => exact ho.not_isMark (by decide)
    | succ n => rfl
  have hoperand : Reads (Behind []) (operand inner) (.identifier "x" :: pointedTokens n) _ True :=
    reads_operand rfl (reads_postfixed_pointed n)
  exact reads_assignment hstart
    ((reads_conditional (reads_chain hoperand _)).before fun _ ho => ho.behindOperators)

theorem reads_statement_pointed (n m : Nat) :
    Reads (· = none) (statement (atDepth (m + 1))) (.identifier "x" :: pointedTokens n)
      (.eval ((Expr.name "x").pointed n)) True := by
  have hend : ∀ o : Option Token, o = none →
      (([] : List Token).head?.or o).any (Token.isMark .semicolon) = false := by
    rintro _ rfl
    rfl
  have hsemicolon : Reads (· = none) semicolon [] () True := .eatNot hend reads_pure
  refine reads_other rfl (.peek (.last (reads_pointed n)
    (.last hsemicolon reads_pure fun _ ho => ho) ?_))
  rintro _ rfl
  exact nofun

theorem reads_program_pointed (n : Nat) :
    Reads (· = none) program (.identifier "x" :: pointedTokens n)
      ⟨[.statement (.eval ((Expr.name "x").pointed n))]⟩ True := by
  refine .budget fun k hk => ?_
  obtain ⟨k, rfl⟩ := Nat.exists_eq_add_one.2 (Nat.lt_of_lt_of_le (Nat.zero_lt_succ _) hk)
  have hitem : Reads (· = none) (item (atDepth maxNesting)) (.identifier "x" :: pointedTokens n)
      (.statement (.eval ((Expr.name "x").pointed n))) True :=
    .eatNot (fun _ _ => rfl) (.eatNot (fun _ _ => rfl) (.map (reads_statement_pointed n 127)))
  have hnone : Reads (· = none) (items (atDepth maxNesting) k) ([].flatMap Item.tokens) [] True :=
    .iff (reads_items (Nat.zero_le k)) (by simp)
  exact .map (f := Program.mk) (.peek (.last hitem (.map hnone) fun _ ho => ho))

/-- **A row of members is read** however long it is. -/
theorem parse_pointed (n : Nat) : parse (String.ofList ('x' :: pointedText n)) =
    .ok ⟨[.statement (.eval ((Expr.name "x").pointed n))]⟩ := by
  obtain ⟨ts, hts, htokens⟩ := scan_pointed (Position.start.afterAll ['x']) n
  have hscan : scan .start ('x' :: pointedText n) = .ok (⟨.identifier "x", Position.start.span ['x']⟩ :: ts) :=
    scan_lexeme rfl (front_x n) hts
  have hmap : (⟨.identifier "x", Position.start.span ['x']⟩ :: ts).map (·.token) =
      .identifier "x" :: pointedTokens n := by
    rw [List.map_cons, htokens]
  have hrun := (reads_program_pointed n _ [] hmap rfl).1 trivial
  rw [List.append_nil] at hrun
  have htokenize : tokenize (String.ofList ('x' :: pointedText n)) =
      .ok ⟨⟨.identifier "x", Position.start.span ['x']⟩ :: ts,
        (Position.start.afterAll ('x' :: pointedText n)).span []⟩ := by
    simp only [tokenize, String.toList_ofList, hscan]
    rfl
  exact parse_of_run htokenize hrun

/-- **No number bounds the height** of the trees that are read. -/
theorem height_unbounded : ¬ ∃ bound, ∀ source p, parse source = .ok p → p.height ≤ bound := by
  rintro ⟨bound, h⟩
  have hle := h _ _ (parse_pointed bound)
  have hheight : (Program.mk [.statement (.eval ((Expr.name "x").pointed bound))]).height = bound + 2 := by
    show max (((Expr.name "x").pointed bound).heightBy 1 + 1) 0 = bound + 2
    rw [Expr.heightBy_pointed, Expr.heightBy]
    omega
  omega

end Syntax
end ScriptImport
