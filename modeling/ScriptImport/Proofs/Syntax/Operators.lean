/-
# Expressions in front of their own tokens

How the productions for one level of expressions read tokens, given how the productions of the level below read the
parts.  Three things are needed besides the tokens themselves.

* Behind an expression stands a mark that ends it (`Ends`), and behind an operand something that is not applied to it
  and no operator that binds as tightly as the ones that are read (`Behind`).
* An expression in parentheses looks like the parameters of an arrow function, until an arrow is missing behind
  them.  Looking for the end of the parameters passes over balanced parentheses (`Balanced`,
  `startsArrow_inParens`).
* Operators of one tightness are read by a loop, and the loops of the looser ones around it stop at once
  (`reads_chain_apply`).
-/

import ScriptImport.Proofs.Syntax.Written

namespace ScriptImport
namespace Syntax

open Syntax.Parser

/-! ### Parentheses -/

/-- Looking for the end of the parameters of an arrow function passes over these tokens. -/
def Balanced (toks : List Token) : Prop :=
  ∀ opened ts rest, ts.map (·.token) = toks →
    closesBeforeArrow (opened + 1) (ts ++ rest) = closesBeforeArrow (opened + 1) rest

/-- Whether a token opens or closes parentheses. -/
def Token.isParen (t : Token) : Bool := t.isMark .leftParen || t.isMark .rightParen

theorem balanced_nil : Balanced [] := by
  intro opened ts rest hts
  rw [List.map_eq_nil_iff.1 hts, List.nil_append]

theorem closesBeforeArrow_open {t : Located} (h : t.token = .mark .leftParen) (opened : Nat) (ts : List Located) :
    closesBeforeArrow opened (t :: ts) = closesBeforeArrow (opened + 1) ts := by
  obtain ⟨token, span⟩ := t
  subst h
  rfl

theorem closesBeforeArrow_close {t : Located} (h : t.token = .mark .rightParen) (opened : Nat) (ts : List Located) :
    closesBeforeArrow (opened + 2) (t :: ts) = closesBeforeArrow (opened + 1) ts := by
  obtain ⟨token, span⟩ := t
  subst h
  rfl

theorem closesBeforeArrow_last {t : Located} (h : t.token = .mark .rightParen) (ts : List Located) :
    closesBeforeArrow 1 (t :: ts) = ts.head?.any fun t => t.token.isMark .arrow := by
  obtain ⟨token, span⟩ := t
  subst h
  rfl

theorem closesBeforeArrow_other {t : Located} (h : t.token.isParen = false) (opened : Nat) (ts : List Located) :
    closesBeforeArrow opened (t :: ts) = closesBeforeArrow opened ts := by
  obtain ⟨token, span⟩ := t
  cases token with
  | mark m =>
    cases m with
    | leftParen => cases h
    | rightParen => cases h
    | _ => rfl
  | _ => rfl

theorem Balanced.cons {t : Token} {toks : List Token} (ht : t.isParen = false) (h : Balanced toks) :
    Balanced (t :: toks) := by
  intro opened ts rest hts
  obtain ⟨l, ts, rfl, rfl, hrest⟩ := List.map_eq_cons_iff.1 hts
  rw [List.cons_append, closesBeforeArrow_other ht, h opened ts rest hrest]

theorem Balanced.append {toks toks' : List Token} (h : Balanced toks) (h' : Balanced toks') :
    Balanced (toks ++ toks') := by
  intro opened ts rest hts
  obtain ⟨ts₁, ts₂, rfl, h₁, h₂⟩ := List.map_eq_append_iff.1 hts
  rw [List.append_assoc, h opened ts₁ _ h₁, h' opened ts₂ rest h₂]

/-- What the tokens behind an opening parenthesis and its contents say. -/
theorem Balanced.closes {toks toks' : List Token} (h : Balanced toks) (opened : Nat) {ts : List Located}
    (rest : List Located) (hts : ts.map (·.token) = inParens toks ++ toks') :
    ∃ close ts₂, ts₂.map (·.token) = toks' ∧ close.token = .mark .rightParen ∧
      closesBeforeArrow opened (ts ++ rest) = closesBeforeArrow (opened + 1) (close :: (ts₂ ++ rest)) := by
  rw [inParens, enclosed, List.cons_append, List.append_assoc] at hts
  obtain ⟨l, ts, rfl, hl, hts⟩ := List.map_eq_cons_iff.1 hts
  obtain ⟨ts₁, ts', rfl, h₁, hts⟩ := List.map_eq_append_iff.1 hts
  obtain ⟨close, ts₂, rfl, hclose, h₂⟩ := List.map_eq_cons_iff.1 hts
  refine ⟨close, ts₂, h₂, hclose, ?_⟩
  rw [List.cons_append, closesBeforeArrow_open hl, List.append_assoc, h opened ts₁ _ h₁, List.cons_append]

theorem Balanced.inParens {toks : List Token} (h : Balanced toks) : Balanced (inParens toks) := by
  intro opened ts rest hts
  obtain ⟨close, ts₂, h₂, hclose, hrun⟩ := h.closes (opened + 1) rest
    (hts.trans (List.append_nil _).symm)
  rw [hrun, List.map_eq_nil_iff.1 h₂, List.nil_append, closesBeforeArrow_close hclose]

theorem Balanced.enclosed {opening closing : Mark} {toks : List Token} (h : Balanced toks)
    (hopening : (Token.mark opening).isParen = false) (hclosing : (Token.mark closing).isParen = false) :
    Balanced (enclosed opening closing toks) := .cons hopening (h.append (balanced_nil.cons hclosing))

theorem balanced_commas {rows : List (List Token)} (h : ∀ row ∈ rows, Balanced row) : Balanced (commas rows) := by
  fun_induction commas rows with
  | case1 => exact balanced_nil
  | case2 row => exact h row (List.mem_singleton_self _)
  | case3 row row' rows ih =>
    exact (h row (List.mem_cons_self ..)).append (.cons rfl (ih fun r hr => h r (List.mem_cons_of_mem _ hr)))

theorem balanced_names (xs : List String) : Balanced (commas (xs.map fun x => [.identifier x])) := by
  refine balanced_commas fun row hrow => ?_
  obtain ⟨x, -, rfl⟩ := List.mem_map.1 hrow
  exact balanced_nil.cons rfl

/-- **Parentheses start an arrow function** if an arrow stands behind them. -/
theorem startsArrow_inParens {toks toks' : List Token} (h : Balanced toks) {ts rest : List Located}
    (hts : ts.map (·.token) = inParens toks ++ toks') :
    startsArrow (ts ++ rest) = (toks'.head?.or (rest.head?.map (·.token))).any (Token.isMark .arrow) := by
  have hstart : startsArrow (ts ++ rest) = closesBeforeArrow 0 (ts ++ rest) := by
    obtain ⟨l, ts, rfl, hl, -⟩ := List.map_eq_cons_iff.1 hts
    rw [List.cons_append, closesBeforeArrow_open hl, startsArrow]
    split
    · rename_i hname
      cases hl.symm.trans hname
    · rfl
    · rename_i hparen
      exact absurd hl hparen
  obtain ⟨close, ts₂, rfl, hclose, hrun⟩ := h.closes 0 rest hts
  rw [hstart, hrun, closesBeforeArrow_last hclose, List.head?_map, ← Option.map_or, ← List.head?_append,
    Option.any_map]

/-! ### What stands behind an expression -/

/-- The next token is a mark that ends an expression, or there is none. -/
def Ends (o : Option Token) : Prop :=
  ∀ t ∈ o, ∃ m ∈ [Mark.rightParen, .rightBracket, .rightBrace, .comma, .semicolon, .colon], t = .mark m

/-- The next token is not applied to what stands before it, and it is no operator of these degrees of tightness. -/
def Behind (tightnesses : List Nat) (o : Option Token) : Prop :=
  ∀ t ∈ o, (t.isMark .dot || t.isMark .leftBracket || t.isMark .leftParen) = false ∧
    ∀ n ∈ tightnesses, t.operator? n = none

theorem ends_mark {m : Mark} (h : m ∈ [Mark.rightParen, .rightBracket, .rightBrace, .comma, .semicolon, .colon]) :
    Ends (some (.mark m)) := by
  rintro _ ⟨⟩
  exact ⟨m, h, rfl⟩

theorem Ends.not_isMark {o : Option Token} (h : Ends o) {m : Mark}
    (hm : m ∉ [Mark.rightParen, .rightBracket, .rightBrace, .comma, .semicolon, .colon]) :
    o.any (Token.isMark m) = false := by
  cases o with
  | none => rfl
  | some t =>
    obtain ⟨m', hm', rfl⟩ := h t rfl
    exact decide_eq_false fun heq => hm (heq ▸ hm')

theorem Ends.behind {o : Option Token} (h : Ends o) (tightnesses : List Nat) : Behind tightnesses o := by
  intro t ht
  obtain ⟨m, hm, rfl⟩ := h t ht
  simp only [List.mem_cons, List.not_mem_nil, or_false] at hm
  rcases hm with rfl | rfl | rfl | rfl | rfl | rfl <;> exact ⟨rfl, fun _ _ => rfl⟩

theorem Behind.operator?_eq_none {n : Nat} {tightnesses : List Nat} {o : Option Token}
    (h : Behind (n :: tightnesses) o) : o.bind (Token.operator? n) = none := by
  cases o with
  | none => rfl
  | some t => exact (h t rfl).2 n (List.mem_cons_self ..)

theorem Behind.tail {n : Nat} {tightnesses : List Nat} {o : Option Token} (h : Behind (n :: tightnesses) o) :
    Behind tightnesses o := fun t ht => ⟨(h t ht).1, fun k hk => (h t ht).2 k (List.mem_cons_of_mem _ hk)⟩

/-- The tokens in front of the end of an expression are not the start of an arrow function. -/
def NoArrow (toks : List Token) : Prop :=
  ∀ ts rest, ts.map (·.token) = toks → Ends (rest.head?.map (·.token)) → startsArrow (ts ++ rest) = false

/-- Whether an arrow function may start with a token. -/
def Token.mayStartArrow : Token → Bool
  | .identifier _ => true
  | .mark .leftParen => true
  | _ => false

theorem noArrow_of_head {t : Token} {toks : List Token} (ht : t.mayStartArrow = false) : NoArrow (t :: toks) := by
  intro ts rest hts _
  obtain ⟨l, ts, rfl, rfl, -⟩ := List.map_eq_cons_iff.1 hts
  rw [List.cons_append, startsArrow]
  split
  · rename_i hname
    rw [hname] at ht
    cases ht
  · rename_i hparen
    rw [hparen] at ht
    cases ht
  · rfl

theorem noArrow_inParens {toks toks' : List Token} (h : Balanced toks)
    (hnext : ∀ o, Ends o → (toks'.head?.or o).any (Token.isMark .arrow) = false) :
    NoArrow (inParens toks ++ toks') := by
  intro ts rest hts hends
  rw [startsArrow_inParens h hts]
  exact hnext _ hends

theorem noArrow_name {x : String} {toks : List Token}
    (hnext : ∀ o, Ends o → (toks.head?.or o).any (Token.isMark .arrow) = false) :
    NoArrow (.identifier x :: toks) := by
  intro ts rest hts hends
  obtain ⟨l, ts, rfl, hl, rfl⟩ := List.map_eq_cons_iff.1 hts
  have hstart : startsArrow (l :: (ts ++ rest)) = (ts ++ rest).head?.any fun t => t.token.isMark .arrow := by
    obtain ⟨token, span⟩ := l
    subst hl
    rfl
  have h := hnext _ hends
  rw [List.head?_map, ← Option.map_or, ← List.head?_append, Option.any_map] at h
  rw [List.cons_append, hstart]
  exact h

/-! ### What is applied to an expression -/

variable {inner : Level} {G : Option Token → Prop} {toks toks' : List Token} {e e' : Expr} {P Q : Prop}

theorem reads_applied_end (k : Nat) : Reads (Behind []) (applied inner k e) [] e True := by
  cases k with
  | zero => exact reads_pure
  | succ k =>
    refine Reads.peekBehind fun o ho => ?_
    split
    · exact absurd (ho _ rfl).1 (by decide)
    · exact absurd (ho _ rfl).1 (by decide)
    · exact absurd (ho _ rfl).1 (by decide)
    · exact reads_pure

theorem reads_propertyName (x : String) : Reads G propertyName [propertyToken x] x True := by
  refine Reads.peek ?_
  rw [Option.bind_some, propertyName?_propertyToken]
  exact reads_skip.next reads_pure

theorem reads_applied_member {k : Nat} {x : String} (h : Reads G (applied inner k (.member e x)) toks e' P) :
    Reads G (applied inner (k + 1) e) (.mark .dot :: propertyToken x :: toks) e' P :=
  Reads.peek (.next reads_skip (.next (reads_propertyName x) h))

theorem reads_applied_index {i : Expr} (k : Nat) (hi : Reads Ends inner.expression toks i P) :
    Reads (Behind []) (applied inner (k + 1) e) (inBrackets toks) (.index e i) P := by
  refine .iff (.peek (.next reads_skip (.bind hi (.next (reads_expectMark _) (reads_applied_end k)) fun _ _ => ?_)))
    (and_true _).to_iff
  exact ends_mark (by decide)

theorem reads_applied_call {args : List Expr} (k : Nat)
    (hargs : Reads (fun _ => True) (listUpTo inner.expression .rightParen) (toks ++ [.mark .rightParen]) args P) :
    Reads (Behind []) (applied inner (k + 1) e) (inParens toks) (.call e args) P :=
  .peek (.next reads_skip (.last hargs (reads_applied_end k) fun _ _ => trivial))

/-- An expression to which nothing is applied. -/
theorem reads_postfixed (he : Reads (fun _ => True) (primary inner) toks e P) :
    Reads (Behind []) (postfixed inner) toks e P := by
  refine .last he (.sees (c := false) (fun o ho => ?_) reads_pure) fun _ _ => trivial
  cases o with
  | none => rfl
  | some t => exact (ho t rfl).1

/-- An expression to which something is applied. -/
theorem reads_postfixed_applied {t : Token} (he : Reads (fun _ => True) (primary inner) toks e P)
    (ht : (t.isMark .dot || t.isMark .leftBracket || t.isMark .leftParen) = true)
    (h : ∀ k, toks'.length ≤ k → Reads G (applied inner (k + 1) e) (t :: toks') e' Q) :
    Reads G (postfixed inner) (toks ++ t :: toks') e' (P ∧ Q) := by
  refine .bind he (.sees (c := true) (fun _ _ => ht) (.budget fun k hk => ?_)) fun _ _ => trivial
  obtain ⟨k, rfl⟩ := Nat.exists_eq_add_one.2 (Nat.lt_of_lt_of_le (Nat.zero_lt_succ _) hk)
  exact h k (Nat.le_of_succ_le_succ hk)

/-! ### Operators -/

theorem reads_operand {t : Token} (ht : t.unary? = none) (h : Reads G (postfixed inner) (t :: toks) e P) :
    Reads G (operand inner) (t :: toks) e P := by
  refine Reads.peek ?_
  rw [Option.bind_some, ht]
  exact h

theorem reads_operand_unary {op : UnaryOp} (h : Reads G inner.operand toks e P) :
    Reads G (operand inner) (op.token :: toks) (.unary op e) P := by
  refine Reads.peek ?_
  rw [Option.bind_some, unary?_token]
  exact .next reads_skip h.map

theorem operator?_mark (op : Operator) (n : Nat) :
    (Token.mark op.mark).operator? n = if op.tightness = n then some op else none := by
  rw [Token.operator?, Operator.ofMark?_mark, Option.filter_some]
  simp

/-- A mark of an operator is no operator of other degrees of tightness. -/
theorem behind_operator {op : Operator} {tightnesses : List Nat} (h : op.tightness ∉ tightnesses) :
    Behind tightnesses (some (.mark op.mark)) := by
  rintro _ ⟨⟩
  refine ⟨?_, fun n hn => ?_⟩
  · cases op with
    | binary op => cases op <;> rfl
    | logical op => cases op <;> rfl
  · rw [operator?_mark, if_neg]
    rintro rfl
    exact h hn

variable {operand : Parser Expr}

/-- The loop for one more degree of tightness stops at once. -/
theorem reads_chain_cons {n : Nat} {tightnesses : List Nat}
    (h : Reads (Behind tightnesses) (chain operand tightnesses) toks e P) :
    Reads (Behind (n :: tightnesses)) (chain operand (n :: tightnesses)) toks e P := by
  refine .last h (.peekBehind fun o ho => ?_) fun o ho => ho.tail
  rw [ho.operator?_eq_none]
  exact reads_pure

/-- An operand alone. -/
theorem reads_chain (h : Reads (Behind []) operand toks e P) (tightnesses : List Nat) :
    Reads (Behind tightnesses) (chain operand tightnesses) toks e P := by
  induction tightnesses with
  | nil => exact h
  | cons n tightnesses ih => exact reads_chain_cons ih

theorem reads_chainAfter_end (n k : Nat) {tightnesses : List Nat} :
    Reads (Behind (n :: tightnesses)) (chainAfter n (chain operand tightnesses) k e) [] e True := by
  cases k with
  | zero => exact reads_pure
  | succ k =>
    refine .peekBehind fun o ho => ?_
    rw [ho.operator?_eq_none]
    exact reads_pure

/-- **An operator between two operands.** -/
theorem reads_chain_apply {a b : Expr} (ha : Reads (Behind []) operand toks a P)
    (hb : Reads (Behind []) operand toks' b Q) {op : Operator} {tightnesses : List Nat} (hnodup : tightnesses.Nodup)
    (hop : op.tightness ∈ tightnesses) :
    Reads (Behind tightnesses) (chain operand tightnesses) (toks ++ .mark op.mark :: toks') (op.apply a b)
      (P ∧ Q) := by
  induction tightnesses with
  | nil => exact absurd hop List.not_mem_nil
  | cons n tightnesses ih =>
    obtain ⟨hn, hnodup⟩ := List.nodup_cons.1 hnodup
    rcases List.mem_cons.1 hop with rfl | hop
    · -- the loop of this operator: it goes round once
      have hsome : (some (Token.mark op.mark)).bind (Token.operator? op.tightness) = some op := by
        rw [Option.bind_some, operator?_mark, if_pos rfl]
      refine .bind (reads_chain ha tightnesses) (.peek ?_) fun _ _ => behind_operator hn
      rw [hsome]
      refine .budget fun k hk => ?_
      obtain ⟨k, rfl⟩ := Nat.exists_eq_add_one.2 (Nat.lt_of_lt_of_le (Nat.zero_lt_succ _) hk)
      refine .peek ?_
      rw [hsome]
      exact .next reads_skip (.last (reads_chain hb tightnesses) (reads_chainAfter_end _ _) fun o ho => ho.tail)
    · exact reads_chain_cons (ih hnodup hop)

/-! ### Choices, assignments and arrow functions -/

/-- The next token goes on neither with the operators nor with a choice. -/
def BehindOperators (o : Option Token) : Prop :=
  Behind [0, 1, 2, 3, 4, 5] o ∧ o.any (Token.isMark .question) = false

theorem Ends.behindOperators {o : Option Token} (h : Ends o) : BehindOperators o :=
  ⟨h.behind _, h.not_isMark (by decide)⟩

theorem reads_conditional (h : Reads (Behind [0, 1, 2, 3, 4, 5]) (operators inner) toks e P) :
    Reads BehindOperators (conditional inner) toks e P :=
  .last h (.eatNot (fun _ ho => ho.2) reads_pure) fun _ ho => ho.1

theorem reads_choice {test a b : Expr} {toks₁ toks₂ toks₃ : List Token} {P₁ P₂ P₃ : Prop}
    (ht : Reads (Behind [0, 1, 2, 3, 4, 5]) (operators inner) toks₁ test P₁)
    (ha : Reads Ends inner.expression toks₂ a P₂) (hb : Reads Ends inner.expression toks₃ b P₃) :
    Reads Ends (conditional inner) (toks₁ ++ .mark .question :: (toks₂ ++ .mark .colon :: toks₃))
      (.conditional test a b) (P₁ ∧ P₂ ∧ P₃) := by
  refine .bind ht (.next (reads_eat rfl) (.bind ha (.next (reads_expectMark _) hb.map) fun _ _ => ?_)) fun _ _ => ?_
  · exact ends_mark (by decide)
  · rintro _ ⟨⟩
    exact ⟨rfl, fun _ _ => rfl⟩

theorem reads_assignment (hstart : NoArrow toks) (h : Reads Ends (conditional inner) toks e P) :
    Reads Ends (assignment inner) toks e P := by
  refine .get (fun ts rest hts hends => if_neg ?_) (.last h (.sees (c := false) (fun o ho => ?_) reads_pure)
    fun _ ho => ho)
  · rw [hstart ts rest hts hends]
    exact Bool.false_ne_true
  · exact ho.not_isMark (by decide)

theorem reads_assign {target : Target} (hstart : NoArrow (toks ++ .mark .assign :: toks'))
    (ht : Reads BehindOperators (conditional inner) toks target.expr P)
    (he : Reads Ends inner.expression toks' e Q) :
    Reads Ends (assignment inner) (toks ++ .mark .assign :: toks') (.assign target e) (P ∧ Q) := by
  refine .get (fun ts rest hts hends => if_neg ?_) (.bind ht (.sees (c := true) (fun _ _ => rfl) ?_) fun _ _ => ?_)
  · rw [hstart ts rest hts hends]
    exact Bool.false_ne_true
  · rw [if_pos rfl, Target.target?_expr]
    exact .next reads_skip he.map
  · refine ⟨?_, rfl⟩
    rintro _ ⟨⟩
    exact ⟨rfl, fun _ _ => rfl⟩

theorem reads_params (ps : List String) : Reads (fun _ => True) params (paramTokens ps) ps True := by
  refine .next (reads_expectMark _) (.iff (.listUpTo (by decide) trivial trivial
    (fun x _ => reads_identifier x (F := fun _ => True)) fun x _ => ⟨_, _, rfl, rfl⟩) (by simp))

theorem reads_arrow {ps : List String} (he : Reads Ends inner.expression (inParens toks) e P) :
    Reads Ends (assignment inner) (paramTokens ps ++ .mark .arrow :: inParens toks) (.arrow ps e) P := by
  refine .get (fun ts rest hts _ => if_pos ?_) (.sees (c := true) (fun _ _ => rfl) (.andThen (reads_params ps)
    (.next (reads_expectMark _) (.sees (c := false) (fun _ _ => rfl) he.map)) fun _ _ => trivial))
  rw [startsArrow_inParens (balanced_names ps) hts]
  rfl

end Syntax
end ScriptImport
