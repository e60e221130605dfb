/-
# Chains of operators

A chain is an operand and a list of operators with the operands behind them.  `PrecedenceTree first rest e` says that
the expression `e` is a tree of that chain: read from left to right it is the chain (`Expr.leftmost`,
`Expr.further`), and of two operators the one further down binds at least as tightly if it is on the left and more
tightly if it is on the right (`Expr.Ordered`).

A chain has at most one such tree (`PrecedenceTree.unique`).  Its root is the last one of its loosest operators: all
the operators to the right of a root bind more tightly than it does, and none to the left binds less tightly
(`Expr.Ordered.le_of_mem`).  And reading gives such a tree (`exists_reads_chain`): the loop for one tightness
takes one operator and a chain of tighter ones at a time, and puts them to the right of what it has
(`exists_reads_chainAfter`).
-/

import Mathlib.Data.List.TakeWhile
import ScriptImport.Proofs.Syntax.Operators

namespace ScriptImport
namespace Syntax

open Syntax.Parser

/-! ### Trees of operators -/

namespace Expr

/-- The operator outside of an expression. -/
def root? : Expr → Option Operator
  | .binary op _ _ => some (.binary op)
  | .logical op _ _ => some (.logical op)
  | _ => none

/-- The first operand of a tree, from left to right. -/
def leftmost : Expr → Expr
  | .binary _ a _ => a.leftmost
  | .logical _ a _ => a.leftmost
  | e => e

/-- The operators of a tree from left to right, with the operands behind them. -/
def further : Expr → List (Operator × Expr)
  | .binary op a b => a.further ++ (.binary op, b.leftmost) :: b.further
  | .logical op a b => a.further ++ (.logical op, b.leftmost) :: b.further
  | _ => []

/-- Every left operand has a root that binds at least as tightly as the operator, and every right operand one that
binds more tightly. -/
def Ordered : Expr → Prop
  | .binary op a b => a.Ordered ∧ b.Ordered ∧ (∀ o ∈ a.root?, (Operator.binary op).tightness ≤ o.tightness) ∧
    ∀ o ∈ b.root?, (Operator.binary op).tightness < o.tightness
  | .logical op a b => a.Ordered ∧ b.Ordered ∧ (∀ o ∈ a.root?, (Operator.logical op).tightness ≤ o.tightness) ∧
    ∀ o ∈ b.root?, (Operator.logical op).tightness < o.tightness
  | _ => True

/-- An expression is an operator between two operands, or it has none outside. -/
@[elab_as_elim]
theorem operatorInduction {motive : Expr → Prop} (leaf : ∀ e, e.root? = none → motive e)
    (apply : ∀ (op : Operator) a b, motive a → motive b → motive (op.apply a b)) : ∀ e, motive e
  | .binary op a b => apply (.binary op) a b (operatorInduction leaf apply a) (operatorInduction leaf apply b)
  | .logical op a b => apply (.logical op) a b (operatorInduction leaf apply a) (operatorInduction leaf apply b)
  | .number _ | .string _ | .bool _ | .null | .name _ | .array _ | .object _ | .member _ _ | .index _ _ | .call _ _
  | .function _ _ _ | .arrow _ _ | .unary _ _ | .conditional _ _ _ | .assign _ _ => leaf _ rfl

variable {e a b : Expr} {op : Operator}

@[simp] theorem root?_apply : (op.apply a b).root? = some op := by cases op <;> rfl

@[simp] theorem leftmost_apply : (op.apply a b).leftmost = a.leftmost := by cases op <;> rfl

@[simp] theorem further_apply : (op.apply a b).further = a.further ++ (op, b.leftmost) :: b.further := by
  cases op <;> rfl

@[simp] theorem ordered_apply : (op.apply a b).Ordered ↔ a.Ordered ∧ b.Ordered ∧
    (∀ o ∈ a.root?, op.tightness ≤ o.tightness) ∧ ∀ o ∈ b.root?, op.tightness < o.tightness := by
  cases op <;> rfl

theorem leftmost_of_root? (h : e.root? = none) : e.leftmost = e := by cases e <;> first | rfl | cases h

theorem further_of_root? (h : e.root? = none) : e.further = [] := by cases e <;> first | rfl | cases h

theorem ordered_of_root? (h : e.root? = none) : e.Ordered := by cases e <;> trivial

/-- The root is one of the operators. -/
theorem mem_of_root? (h : op ∈ e.root?) : ∃ x, (op, x) ∈ e.further := by
  cases e using operatorInduction with
  | leaf e he => exact absurd h (by rw [he]; exact nofun)
  | apply o a b =>
    rw [root?_apply] at h
    cases h
    exact ⟨b.leftmost, by simp⟩

/-- **No operator binds less tightly** than a bound on the root says. -/
theorem Ordered.le_of_mem (h : e.Ordered) {k : Nat} (hk : ∀ o ∈ e.root?, k ≤ o.tightness) :
    ∀ p ∈ e.further, k ≤ p.1.tightness := by
  induction e using operatorInduction generalizing k with
  | leaf e he =>
    rw [further_of_root? he]
    exact fun p hp => absurd hp List.not_mem_nil
  | apply op a b iha ihb =>
    obtain ⟨ha, hb, hleft, hright⟩ := ordered_apply.1 h
    have hop : k ≤ op.tightness := hk op root?_apply
    intro p hp
    rw [further_apply, List.mem_append, List.mem_cons] at hp
    rcases hp with hp | rfl | hp
    · exact iha ha (fun o ho => Nat.le_trans hop (hleft o ho)) p hp
    · exact hop
    · exact ihb hb (fun o ho => Nat.le_trans hop (Nat.le_of_lt (hright o ho))) p hp

/-- Two members of one list stand at the same place, or one of them is on the left of the other one. -/
theorem eq_or_mem_of_append_cons {α : Type} {l l' r r' : List α} {x x' : α} (h : l ++ x :: r = l' ++ x' :: r') :
    (l = l' ∧ x = x' ∧ r = r') ∨ (x ∈ l' ∧ x' ∈ r) ∨ (x' ∈ l ∧ x ∈ r') := by
  rcases List.append_eq_append_iff.1 h with ⟨between, rfl, hr⟩ | ⟨between, rfl, hr⟩
  · cases between with
    | nil => simp_all
    | cons y between => simp_all
  · cases between with
    | nil => simp_all
    | cons y between => simp_all

/-- If the root of one tree stands on the left of the root of another one, then the root of the other one is not on
the right of the first one. -/
theorem Ordered.not_mem_further {a' b' : Expr} {op' : Operator} {x : Expr} (h : (op.apply a b).Ordered)
    (h' : (op'.apply a' b').Ordered) (hleft : (op, x) ∈ a'.further) (y : Expr) : (op', y) ∉ b.further := by
  intro hmem
  obtain ⟨-, hb, -, htight⟩ := ordered_apply.1 h
  obtain ⟨ha', -, hloose, -⟩ := ordered_apply.1 h'
  have hle : op'.tightness ≤ op.tightness := ha'.le_of_mem hloose _ hleft
  have hlt : op.tightness < op'.tightness := hb.le_of_mem htight _ hmem
  exact absurd hle (Nat.not_le_of_gt hlt)

theorem Ordered.eq_of_same_chain {e' : Expr} (h : e.Ordered) (h' : e'.Ordered)
    (hleftmost : e'.leftmost = e.leftmost) (hfurther : e'.further = e.further) : e' = e := by
  induction e using operatorInduction generalizing e' with
  | leaf e he =>
    cases e' using operatorInduction with
    | leaf e' he' => rwa [leftmost_of_root? he', leftmost_of_root? he] at hleftmost
    | apply op' a' b' => simp [further_of_root? he] at hfurther
  | apply op a b iha ihb =>
    cases e' using operatorInduction with
    | leaf e' he' => simp [further_of_root? he'] at hfurther
    | apply op' a' b' =>
      rw [leftmost_apply, leftmost_apply] at hleftmost
      rw [further_apply, further_apply] at hfurther
      obtain ⟨ha, hb, -, -⟩ := ordered_apply.1 h
      obtain ⟨ha', hb', -, -⟩ := ordered_apply.1 h'
      rcases eq_or_mem_of_append_cons hfurther with ⟨hleft, hroot, hright⟩ | ⟨hmem', hmem⟩ | ⟨hmem, hmem'⟩
      · obtain ⟨rfl, hsecond⟩ := Prod.mk.inj hroot
        rw [iha ha ha' hleftmost hleft, ihb hb hb' hsecond hright]
      · exact absurd hmem (h'.not_mem_further h hmem' _)
      · exact absurd hmem' (h.not_mem_further h' hmem _)

end Expr

/-- The expression is a tree of the chain with the operand `first` and the operators and operands `rest` behind it,
and tightness says which operators are further down. -/
structure PrecedenceTree (first : Expr) (rest : List (Operator × Expr)) (e : Expr) : Prop where
  leftmost : e.leftmost = first
  further : e.further = rest
  ordered : e.Ordered

namespace PrecedenceTree

variable {first x e e' r : Expr} {rest more : List (Operator × Expr)} {op : Operator}

theorem of_root? (h : e.root? = none) : PrecedenceTree e [] e :=
  ⟨Expr.leftmost_of_root? h, Expr.further_of_root? h, Expr.ordered_of_root? h⟩

theorem apply (he : PrecedenceTree first rest e) (hr : PrecedenceTree x more r)
    (hleft : ∀ o ∈ e.root?, op.tightness ≤ o.tightness) (hright : ∀ o ∈ r.root?, op.tightness < o.tightness) :
    PrecedenceTree first (rest ++ (op, x) :: more) (op.apply e r) where
  leftmost := by rw [Expr.leftmost_apply, he.leftmost]
  further := by rw [Expr.further_apply, he.further, hr.leftmost, hr.further]
  ordered := Expr.ordered_apply.2 ⟨he.ordered, hr.ordered, hleft, hright⟩

/-- The root is one of the operators of the chain. -/
theorem mem_of_root? (h : PrecedenceTree first rest e) (hop : op ∈ e.root?) : ∃ x, (op, x) ∈ rest :=
  h.further ▸ Expr.mem_of_root? hop

/-- **A chain has one tree.** -/
theorem unique (h : PrecedenceTree first rest e) (h' : PrecedenceTree first rest e') : e' = e :=
  h.ordered.eq_of_same_chain h'.ordered (h'.leftmost.trans h.leftmost.symm) (h'.further.trans h.further.symm)

end PrecedenceTree

/-! ### Chains -/

/-- Operands that are one token. -/
inductive Operand where
  | name (x : String)
  | number (x : Float)
  | string (s : String)
  | bool (b : Bool)
  | null

/-- The token of an operand. -/
def Operand.token : Operand → Token
  | .name x => .identifier x
  | .number x => .number x
  | .string s => .string s
  | .bool true => .keyword .trueWord
  | .bool false => .keyword .falseWord
  | .null => .keyword .nullWord

/-- The expression that an operand is. -/
def Operand.expr : Operand → Expr
  | .name x => .name x
  | .number x => .number x
  | .string s => .string s
  | .bool b => .bool b
  | .null => .null

/-- The tokens of operators and the operands behind them. -/
def furtherTokens (rest : List (Operator × Operand)) : List Token :=
  rest.flatMap fun p => [.mark p.1.mark, p.2.token]

/-- Operators and the expressions behind them. -/
def furtherExprs (rest : List (Operator × Operand)) : List (Operator × Expr) := rest.map fun p => (p.1, p.2.expr)

theorem furtherTokens_cons (p : Operator × Operand) (rest : List (Operator × Operand)) :
    furtherTokens (p :: rest) = .mark p.1.mark :: p.2.token :: furtherTokens rest := rfl

theorem furtherTokens_append (rest rest' : List (Operator × Operand)) :
    furtherTokens (rest ++ rest') = furtherTokens rest ++ furtherTokens rest' := List.flatMap_append ..

theorem PrecedenceTree.forall_root? {rest : List (Operator × Operand)} {first e : Expr} {P : Nat → Prop}
    (h : PrecedenceTree first (furtherExprs rest) e) (hrest : ∀ p ∈ rest, P p.1.tightness) :
    ∀ o ∈ e.root?, P o.tightness := by
  intro o ho
  obtain ⟨x, hx⟩ := h.mem_of_root? ho
  obtain ⟨p, hp, heq⟩ := List.mem_map.1 hx
  cases heq
  exact hrest p hp

theorem Operand.root?_expr (x : Operand) : x.expr.root? = none := by cases x <;> rfl

theorem Operand.unary?_token (x : Operand) : x.token.unary? = none := by
  cases x with
  | bool b => cases b <;> rfl
  | _ => rfl

theorem Operator.isMark_arrow (op : Operator) : (Token.mark op.mark).isMark .arrow = false := by
  cases op with
  | binary op => cases op <;> rfl
  | logical op => cases op <;> rfl

theorem Operator.tightness_mem (op : Operator) : op.tightness ∈ [0, 1, 2, 3, 4, 5] := by
  cases op with
  | binary op => cases op <;> decide
  | logical op => cases op <;> decide

/-- The operators up to the first one of tightness `n`, and the others. -/
theorem exists_split_at (n : Nat) (rest : List (Operator × Operand)) :
    ∃ tighter others, rest = tighter ++ others ∧ (∀ p ∈ tighter, p.1.tightness ≠ n) ∧
      ∀ p ∈ others.head?, p.1.tightness = n := by
  refine ⟨rest.takeWhile (·.1.tightness ≠ n), rest.dropWhile (·.1.tightness ≠ n),
    List.takeWhile_append_dropWhile.symm, fun p hp => ?_, fun p hp => ?_⟩
  · simpa using List.mem_takeWhile_imp hp
  · have h := List.head?_dropWhile_not (·.1.tightness ≠ n) rest
    rw [Option.mem_def.1 hp] at h
    simpa using h

/-- Behind a chain comes one of the other operators, or what is behind all of them. -/
theorem behind_furtherTokens {tightnesses : List Nat} {others : List (Operator × Operand)} {o : Option Token}
    (hothers : ∀ p ∈ others.head?, p.1.tightness ∉ tightnesses) (ho : Behind tightnesses o) :
    Behind tightnesses ((furtherTokens others).head?.or o) := by
  cases others with
  | nil => exact ho
  | cons p others => exact behind_operator (hothers p rfl)

/-! ### Reading chains -/

section Reading

variable {operand : Parser Expr}

theorem reads_operand_token (inner : Level) (x : Operand) :
    Reads (Behind []) (Parser.operand inner) [x.token] x.expr True := by
  refine reads_operand x.unary?_token (reads_postfixed ?_)
  cases x with
  | bool b => cases b <;> exact .peek (.next reads_skip reads_pure)
  | _ => exact .peek (.next reads_skip reads_pure)

/-- Chains of operators of these degrees of tightness are read as their trees. -/
def ReadsChains (operand : Parser Expr) (tightnesses : List Nat) : Prop :=
  ∀ (x : Operand) rest, (∀ p ∈ rest, p.1.tightness ∈ tightnesses) → ∃ e, PrecedenceTree x.expr (furtherExprs rest) e ∧
    Reads (Behind tightnesses) (chain operand tightnesses) (x.token :: furtherTokens rest) e True

/-- **The loop for one tightness** goes on with a tree to which the operators are added, in front of an operator of
that tightness or at the end of the chain. -/
theorem ReadsChains.exists_reads_chainAfter {n : Nat} {tightnesses : List Nat}
    (h : ReadsChains operand tightnesses) (hn : ∀ k ∈ tightnesses, n < k) (rest : List (Operator × Operand))
    (hrest : ∀ p ∈ rest, p.1.tightness ∈ n :: tightnesses) (hhead : ∀ p ∈ rest.head?, p.1.tightness = n)
    {first left : Expr} {sofar : List (Operator × Expr)} (hleft : PrecedenceTree first sofar left)
    (hroot : ∀ o ∈ left.root?, n ≤ o.tightness) :
    ∃ e, PrecedenceTree first (sofar ++ furtherExprs rest) e ∧ ∀ k, (furtherTokens rest).length ≤ k →
      Reads (Behind (n :: tightnesses)) (chainAfter n (chain operand tightnesses) k left) (furtherTokens rest) e
        True := by
  induction hlength : rest.length using Nat.strongRecOn generalizing rest left sofar with
  | ind length ih =>
    cases rest with
    | nil => exact ⟨left, by rwa [furtherExprs, List.map_nil, List.append_nil], fun k _ => reads_chainAfter_end n k⟩
    | cons p rest =>
      obtain ⟨op, x⟩ := p
      obtain rfl : op.tightness = n := hhead _ rfl
      obtain ⟨tighter, others, rfl, htighter, hothers⟩ := exists_split_at op.tightness rest
      have hmem : ∀ p ∈ tighter, p.1.tightness ∈ tightnesses := fun p hp =>
        (List.mem_cons.1 (hrest p (by simp [hp]))).resolve_left (htighter p hp)
      -- the right operand is a chain of tighter operators
      obtain ⟨r, hr, hread⟩ := h x tighter hmem
      have htight : ∀ o ∈ r.root?, op.tightness < o.tightness :=
        hr.forall_root? fun p hp => hn _ (hmem p hp)
      obtain ⟨e, he, hreads⟩ := ih others.length (by simp at hlength; omega) others
        (fun p hp => hrest p (by simp [hp])) hothers (hleft.apply hr hroot htight) (by simp) rfl
      refine ⟨e, by simpa [furtherExprs] using he, fun k hk => ?_⟩
      rw [furtherTokens_cons, furtherTokens_append] at hk ⊢
      obtain ⟨k, rfl⟩ := Nat.exists_eq_add_one.2 (Nat.lt_of_lt_of_le (Nat.zero_lt_succ _) hk)
      have hsome : (some (Token.mark op.mark)).bind (Token.operator? op.tightness) = some op := by
        rw [Option.bind_some, operator?_mark, if_pos rfl]
      have hnot : op.tightness ∉ tightnesses := fun hmem => Nat.lt_irrefl _ (hn _ hmem)
      refine .peek ?_
      rw [hsome]
      refine .next reads_skip (.andThen hread (hreads k ?_) fun o ho => behind_furtherTokens ?_ ho.tail)
      · simp only [List.length_cons, List.length_append] at hk
        omega
      · exact fun p hp => hothers p hp ▸ hnot

/-- **Chains are read as their trees**, if the operators that are looser are read outside of the tighter ones. -/
theorem readsChains (hoperand : ∀ x : Operand, Reads (Behind []) operand [x.token] x.expr True)
    {tightnesses : List Nat} (hsorted : tightnesses.Pairwise (· < ·)) : ReadsChains operand tightnesses := by
  induction tightnesses with
  | nil =>
    intro x rest hrest
    obtain rfl : rest = [] := List.eq_nil_iff_forall_not_mem.2 fun p hp => absurd (hrest p hp) List.not_mem_nil
    exact ⟨x.expr, .of_root? x.root?_expr, hoperand x⟩
  | cons n tightnesses ih =>
    obtain ⟨hn, hsorted⟩ := List.pairwise_cons.1 hsorted
    intro x rest hrest
    obtain ⟨tighter, others, rfl, htighter, hothers⟩ := exists_split_at n rest
    have hmem : ∀ p ∈ tighter, p.1.tightness ∈ tightnesses := fun p hp =>
      (List.mem_cons.1 (hrest p (List.mem_append_left _ hp))).resolve_left (htighter p hp)
    obtain ⟨left, hleft, hread⟩ := ih hsorted x tighter hmem
    cases others with
    | nil =>
      rw [List.append_nil]
      exact ⟨left, hleft, reads_chain_cons hread⟩
    | cons p others =>
      have hroot : ∀ o ∈ left.root?, n ≤ o.tightness :=
        hleft.forall_root? fun p hp => Nat.le_of_lt (hn _ (hmem p hp))
      obtain ⟨e, he, hreads⟩ := (ih hsorted).exists_reads_chainAfter hn (p :: others)
        (fun p hp => hrest p (List.mem_append_right _ hp)) hothers hleft hroot
      have hp : p.1.tightness = n := hothers p rfl
      have hsome : (some (Token.mark p.1.mark)).bind (Token.operator? n) = some p.1 := by
        rw [Option.bind_some, operator?_mark, if_pos hp]
      refine ⟨e, by simpa [furtherExprs] using he, ?_⟩
      rw [furtherTokens_append, ← List.cons_append]
      refine .andThen hread (.peek ?_) fun o ho => behind_furtherTokens (fun q hq => ?_) ho.tail
      · rw [hsome]
        exact .budget fun k hk => hreads k hk
      · exact fun hq' => Nat.lt_irrefl _ (hn _ (hothers q hq ▸ hq'))

end Reading

/-! ### Chains as expressions -/

/-- The next token does not go on with a chain: it is not applied to the last operand, it is no operator, it begins no
choice, and it makes the chain neither the target of an assignment nor the parameter of an arrow function. -/
def EndsChain (o : Option Token) : Prop :=
  ∀ t ∈ o, (∀ m ∈ [Mark.dot, .leftBracket, .leftParen, .question, .assign, .arrow], t ≠ .mark m) ∧
    ∀ op : Operator, t ≠ .mark op.mark

variable {o : Option Token}

theorem EndsChain.isMark {t : Token} {m : Mark} (h : EndsChain (some t))
    (hm : m ∈ [Mark.dot, .leftBracket, .leftParen, .question, .assign, .arrow]) : t.isMark m = false := by
  have hne := (h t rfl).1 m hm
  cases t with
  | mark m' => exact decide_eq_false fun heq => hne (heq ▸ rfl)
  | _ => rfl

theorem EndsChain.any_isMark {m : Mark} (h : EndsChain o)
    (hm : m ∈ [Mark.dot, .leftBracket, .leftParen, .question, .assign, .arrow]) : o.any (Token.isMark m) = false := by
  cases o with
  | none => rfl
  | some t => exact h.isMark hm

theorem eq_mark_of_operator? {t : Token} {n : Nat} {op : Operator} (h : t.operator? n = some op) :
    t = .mark op.mark := by
  cases t with
  | mark m =>
    have hm := (Option.filter_eq_some_iff.1 h).1
    cases m <;> cases hm <;> rfl
  | _ => cases h

theorem EndsChain.behindOperators (h : EndsChain o) : BehindOperators o := by
  refine ⟨fun t ht => ?_, h.any_isMark (by decide)⟩
  obtain rfl := Option.mem_def.1 ht
  refine ⟨?_, fun n _ => Option.eq_none_iff_forall_ne_some.2 fun op hop => (h t rfl).2 op (eq_mark_of_operator? hop)⟩
  rw [h.isMark (m := .dot) (by decide), h.isMark (m := .leftBracket) (by decide),
    h.isMark (m := .leftParen) (by decide)]
  rfl

/-- A chain does not look like the start of an arrow function. -/
theorem startsArrow_chain {x : Operand} {rest : List (Operator × Operand)} {ts after : List Located}
    (hts : ts.map (·.token) = x.token :: furtherTokens rest) (hafter : EndsChain (after.head?.map (·.token))) :
    startsArrow (ts ++ after) = false := by
  obtain ⟨l, ts, rfl, hl, hrest⟩ := List.map_eq_cons_iff.1 hts
  have hnext : ((ts ++ after).head?.map (·.token)).any (Token.isMark .arrow) = false := by
    rw [List.head?_append, Option.map_or, ← List.head?_map, hrest]
    cases rest with
    | nil => exact hafter.any_isMark (by decide)
    | cons p rest => exact Operator.isMark_arrow p.1
  rw [List.cons_append, startsArrow, hl]
  cases x with
  | name x => exact (Option.any_map ..).symm.trans hnext
  | bool b => cases b <;> rfl
  | _ => rfl

theorem reads_chain_expression (n : Nat) {x : Operand} {rest : List (Operator × Operand)} {e : Expr}
    (h : Reads (Behind [0, 1, 2, 3, 4, 5]) (operators (atDepth n)) (x.token :: furtherTokens rest) e True) :
    Reads EndsChain (atDepth (n + 1)).expression (x.token :: furtherTokens rest) e True := by
  refine .get (fun ts after hts hafter => if_neg ?_)
    (.last ((reads_conditional h).before fun _ ho => ho.behindOperators)
      (.sees (c := false) (fun o ho => ho.any_isMark (by decide)) reads_pure) fun _ ho => ho)
  rw [startsArrow_chain hts hafter]
  exact Bool.false_ne_true

/-- **A chain of operators is read as its tree.**  Every chain has one tree in which the tightness of the operators
says which ones are further down.  At every level at which there may be expressions at all, that tree is what is read,
and exactly the tokens of the chain are taken, whatever comes behind them that does not go on with the chain. -/
theorem expression_chain (x : Operand) (rest : List (Operator × Operand)) :
    ∃ e, PrecedenceTree x.expr (furtherExprs rest) e ∧
      (∀ e', PrecedenceTree x.expr (furtherExprs rest) e' → e' = e) ∧
      ∀ n ts after, ts.map (·.token) = x.token :: furtherTokens rest → EndsChain (after.head?.map (·.token)) →
        (atDepth (n + 1)).expression (ts ++ after) = .ok (e, after) := by
  have hsorted : [0, 1, 2, 3, 4, 5].Pairwise (· < ·) := by decide
  obtain ⟨e, he, -⟩ := readsChains (reads_operand_token (atDepth 0)) hsorted x rest
    fun p _ => p.1.tightness_mem
  refine ⟨e, he, fun e' he' => he.unique he', fun n ts after hts hafter => ?_⟩
  obtain ⟨e', he', hread⟩ := readsChains (reads_operand_token (atDepth n)) hsorted x rest
    fun p _ => p.1.tightness_mem
  obtain rfl := he.unique he'
  exact (reads_chain_expression n hread ts after hts hafter).1 trivial

theorem endsChain_semicolon : EndsChain (some (.mark .semicolon)) := by
  rintro _ ⟨⟩
  refine ⟨by simp, fun op => ?_⟩
  cases op with
  | binary op => cases op <;> exact nofun
  | logical op => cases op <;> exact nofun

/-- Reading `a - b - c * 2 || null;` up to the semicolon. -/
theorem expression_chain_semicolon :
    let located (t : Token) : Located := ⟨t, Position.start.span []⟩
    EndsChain (some (.mark .semicolon)) ∧
    (atDepth 1).expression ([.identifier "a", .mark .minus, .identifier "b", .mark .minus, .identifier "c", .mark .star,
        .number 2, .mark .doubleBar, .keyword .nullWord, .mark .semicolon].map located) =
      .ok (.logical .or (.binary .sub (.binary .sub (.name "a") (.name "b")) (.binary .mul (.name "c") (.number 2)))
        .null, [located (.mark .semicolon)]) := by
  intro located
  obtain ⟨e, -, hunique, hread⟩ := expression_chain (.name "a")
    [(.binary .sub, .name "b"), (.binary .sub, .name "c"), (.binary .mul, .number 2), (.logical .or, .null)]
  have htree := hunique (.logical .or (.binary .sub (.binary .sub (.name "a") (.name "b"))
    (.binary .mul (.name "c") (.number 2))) .null)
    ⟨rfl, rfl, by simp [Expr.Ordered, Expr.root?, Operator.tightness]⟩
  have htokens : (([.identifier "a", .mark .minus, .identifier "b", .mark .minus, .identifier "c", .mark .star,
      .number 2, .mark .doubleBar, .keyword .nullWord] : List Token).map located).map (·.token) =
        (Operand.name "a").token :: furtherTokens [(.binary .sub, .name "b"), (.binary .sub, .name "c"),
          (.binary .mul, .number 2), (.logical .or, .null)] := rfl
  have hrun := hread 0 _ [located (.mark .semicolon)] htokens endsChain_semicolon
  rw [htree]
  exact ⟨endsChain_semicolon, hrun⟩

end Syntax
end ScriptImport
