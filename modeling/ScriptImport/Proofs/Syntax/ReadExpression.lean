/-
# Reading written expressions

`ReadsExpr` says of tokens that they stand for an expression at every level: they are read as that one if there are
enough levels below.  There is one lemma for each kind of expression, which has the tokens of the parts as its
hypotheses.  Names, members, indexed elements and calls are operands as they are (`ReadsOperand`), and every
expression is one in parentheses (`ReadsExpr.paren`).
-/

import ScriptImport.Proofs.Syntax.Operators

namespace ScriptImport
namespace Syntax

open Syntax.Parser

/-! ### Levels -/

/-- At every level the tokens are read as the expression, if it may go `need` levels further down. -/
structure ReadsExpr (toks : List Token) (e : Expr) (need : Nat) : Prop where
  balanced : Balanced toks
  reads : ∀ n, Reads Ends (assignment (atDepth n)) toks e (need ≤ n)

/-- At every level the tokens are read as an operand, and nothing but an arrow behind them makes them the start of
an arrow function. -/
structure ReadsOperand (toks : List Token) (e : Expr) (need : Nat) : Prop where
  balanced : Balanced toks
  noArrow : ∀ toks', (∀ o, Ends o → (toks'.head?.or o).any (Token.isMark .arrow) = false) →
    NoArrow (toks ++ toks')
  reads : ∀ n, Reads (Behind []) (operand (atDepth n)) toks e (need ≤ n)

variable {G : Option Token → Prop} {toks toks' : List Token} {e : Expr} {need n : Nat}

theorem ReadsExpr.expression (h : ReadsExpr toks e need) (n : Nat) :
    Reads Ends (atDepth n).expression toks e (need < n) := by
  cases n with
  | zero => exact reads_tooDeep.iff (by simp)
  | succ n => exact (h.reads n).iff Nat.lt_succ_iff.symm

/-! ### Expressions in parentheses -/

theorem ReadsExpr.of_operators (hbalanced : Balanced toks) (hstart : NoArrow toks)
    (h : ∀ n, Reads (Behind [0, 1, 2, 3, 4, 5]) (operators (atDepth n)) toks e (need ≤ n)) :
    ReadsExpr toks e need :=
  ⟨hbalanced, fun n => reads_assignment hstart ((reads_conditional (h n)).before fun _ ho => ho.behindOperators)⟩

theorem ReadsOperand.expr (h : ReadsOperand toks e need) : ReadsExpr toks e need := by
  have hstart := h.noArrow [] fun _ ho => ho.not_isMark (by decide)
  rw [List.append_nil] at hstart
  exact .of_operators h.balanced hstart fun n => reads_chain (h.reads n) _

theorem ReadsExpr.primary (h : ReadsExpr toks e need) (n : Nat) :
    Reads (fun _ => True) (primary (atDepth n)) (inParens toks) e (need < n) :=
  .iff (.peek (.next reads_skip (.bind (h.expression n) (.next (reads_expectMark _) reads_pure) fun _ _ =>
    ends_mark (by decide)))) (and_true _).to_iff

/-- **An expression in parentheses** is one level deeper. -/
theorem ReadsExpr.paren (h : ReadsExpr toks e need) : ReadsOperand (inParens toks) e (need + 1) :=
  ⟨h.balanced.inParens, fun _ hnext => noArrow_inParens h.balanced hnext,
    fun n => reads_operand rfl (reads_postfixed (h.primary n))⟩

theorem ReadsOperand.operandBelow (h : ReadsOperand toks e need) (n : Nat) :
    Reads (Behind []) (atDepth n).operand toks e (need < n) := by
  cases n with
  | zero => exact reads_tooDeep.iff (by simp)
  | succ n => exact (h.reads n).iff Nat.lt_succ_iff.symm

/-! ### Expressions that start with a token of their own -/

theorem ReadsExpr.of_primary {t : Token} (hbalanced : Balanced (t :: toks)) (hstart : t.mayStartArrow = false)
    (hunary : t.unary? = none)
    (h : ∀ n, Reads (fun _ => True) (Parser.primary (atDepth n)) (t :: toks) e (need ≤ n)) :
    ReadsExpr (t :: toks) e need :=
  .of_operators hbalanced (noArrow_of_head hstart) fun n =>
    reads_chain (reads_operand hunary (reads_postfixed (h n))) _

theorem readsExpr_token {t : Token} (hparen : t.isParen = false) (hstart : t.mayStartArrow = false)
    (hunary : t.unary? = none) (h : ∀ inner, Reads (fun _ => True) (Parser.primary inner) [t] e True) :
    ReadsExpr [t] e 0 :=
  .of_primary (balanced_nil.cons hparen) hstart hunary fun n => .iff (h (atDepth n)) (by simp)

theorem readsExpr_number (x : Float) : ReadsExpr [.number x] (.number x) 0 :=
  readsExpr_token rfl rfl rfl fun _ => .peek (.next reads_skip reads_pure)

theorem readsExpr_string (x : String) : ReadsExpr [.string x] (.string x) 0 :=
  readsExpr_token rfl rfl rfl fun _ => .peek (.next reads_skip reads_pure)

theorem readsExpr_bool (b : Bool) : ReadsExpr [.keyword (if b then .trueWord else .falseWord)] (.bool b) 0 := by
  cases b with
  | true => exact readsExpr_token rfl rfl rfl fun _ => .peek (.next reads_skip reads_pure)
  | false => exact readsExpr_token rfl rfl rfl fun _ => .peek (.next reads_skip reads_pure)

theorem readsExpr_null : ReadsExpr [.keyword .nullWord] .null 0 :=
  readsExpr_token rfl rfl rfl fun _ => .peek (.next reads_skip reads_pure)

theorem readsOperand_name (x : String) : ReadsOperand [.identifier x] (.name x) 0 :=
  ⟨balanced_nil.cons rfl, fun _ hnext => noArrow_name hnext,
    fun _ => reads_operand rfl (reads_postfixed (.iff (.peek (.next reads_skip reads_pure)) (by simp)))⟩

/-! ### Expressions in lists -/

theorem reads_expressions {es : List Expr} (h : ∀ e ∈ es, ReadsExpr e.tokens e e.nesting) {close : Mark}
    (hclose : close ∈ [Mark.rightParen, .rightBracket]) (n : Nat) :
    Reads G (listUpTo (atDepth n).expression close) (commas (rowsOfAll es) ++ [.mark close]) es
      (nestingOfAll es ≤ n) := by
  have hends : Ends (some (.mark close)) := ends_mark (by revert hclose; cases close <;> decide)
  rw [rowsOfAll_eq]
  refine .iff (.listUpTo ?_ (ends_mark (by decide)) hends (fun e he => (h e he).paren.expr.expression n) fun e he => ?_)
    (nestingOfAll_le es).symm
  · rintro rfl
    exact absurd hclose (by decide)
  · refine ⟨_, _, rfl, ?_⟩
    revert hclose
    cases close <;> decide

theorem balanced_rowsOfAll {es : List Expr} (h : ∀ e ∈ es, ReadsExpr e.tokens e e.nesting) :
    Balanced (commas (rowsOfAll es)) := by
  refine balanced_commas fun row hrow => ?_
  rw [rowsOfAll_eq] at hrow
  obtain ⟨e, he, rfl⟩ := List.mem_map.1 hrow
  exact (h e he).balanced.inParens

theorem ReadsExpr.array {es : List Expr} (h : ∀ e ∈ es, ReadsExpr e.tokens e e.nesting) :
    ReadsExpr (inBrackets (commas (rowsOfAll es))) (.array es) (nestingOfAll es) :=
  .of_primary ((balanced_rowsOfAll h).enclosed rfl rfl) rfl rfl fun n =>
    .peek (.next reads_skip (.map (reads_expressions h (by decide) n)))

theorem reads_entry {k : String} (h : ReadsExpr toks e need) (n : Nat) :
    Reads Ends (entry (atDepth n)) (.string k :: .mark .colon :: inParens toks) (k, e) (need + 1 < n) :=
  .next (.peek (.next reads_skip reads_pure)) (.next (reads_eat rfl) (.map (h.paren.expr.expression n)))

theorem ReadsExpr.object {entries : List (String × Expr)}
    (h : ∀ e ∈ entries, ReadsExpr e.2.tokens e.2 e.2.nesting) :
    ReadsExpr (inBraces (commas (rowsOfEntries entries))) (.object entries) (nestingOfEntries entries) := by
  have hbalanced : Balanced (commas (rowsOfEntries entries)) := by
    refine balanced_commas fun row hrow => ?_
    rw [rowsOfEntries_eq] at hrow
    obtain ⟨entry, hentry, rfl⟩ := List.mem_map.1 hrow
    exact .cons (t := .string entry.1) rfl (.cons (t := .mark .colon) rfl (h entry hentry).balanced.inParens)
  refine .of_primary (hbalanced.enclosed rfl rfl) rfl rfl fun n => .peek (.next reads_skip (.map ?_))
  rw [rowsOfEntries_eq]
  exact .iff (.listUpTo (by decide) (ends_mark (by decide)) (ends_mark (by decide))
    (fun entry hentry => reads_entry (h entry hentry) n) fun entry _ => ⟨_, _, rfl, rfl⟩)
    (nestingOfEntries_le entries).symm

/-! ### What is applied to an expression -/

theorem isParen_propertyToken (x : String) : (propertyToken x).isParen = false := by
  unfold propertyToken
  cases Keyword.ofLexeme? x with
  | none => rfl
  | some k => cases k <;> rfl

/-- Something is applied to an expression in parentheses. -/
theorem ReadsExpr.applied {t : Token} {e' : Expr} {need' : Nat} {P : Nat → Prop} (h : ReadsExpr toks e need)
    (hbalanced : Balanced (t :: toks')) (ht : (t.isMark .dot || t.isMark .leftBracket || t.isMark .leftParen) = true)
    (harrow : t.isMark .arrow = false)
    (hreads : ∀ n k, Reads (Behind []) (Parser.applied (atDepth n) (k + 1) e) (t :: toks') e' (P n))
    (hneed : ∀ n, need < n ∧ P n ↔ need' ≤ n) : ReadsOperand (inParens toks ++ t :: toks') e' need' where
  balanced := h.balanced.inParens.append hbalanced
  noArrow toks'' _ := by
    rw [List.append_assoc]
    exact noArrow_inParens h.balanced fun _ _ => harrow
  reads n := reads_operand rfl (.iff (reads_postfixed_applied (h.primary n) ht fun k _ => hreads n k) (hneed n))

theorem ReadsExpr.member (h : ReadsExpr toks e need) (x : String) :
    ReadsOperand (inParens toks ++ [.mark .dot, propertyToken x]) (.member e x) (need + 1) :=
  h.applied (.cons rfl (.cons (isParen_propertyToken x) balanced_nil)) rfl rfl
    (fun _ k => reads_applied_member (reads_applied_end k)) fun _ => (and_true _).to_iff

theorem ReadsExpr.index {i : Expr} {need' : Nat} (h : ReadsExpr toks e need) (hi : ReadsExpr toks' i need') :
    ReadsOperand (inParens toks ++ inBrackets (inParens toks')) (.index e i) (max (need + 1) (need' + 2)) :=
  h.applied (hi.balanced.inParens.enclosed rfl rfl) rfl rfl
    (fun n k => reads_applied_index k (hi.paren.expr.expression n)) fun _ => Nat.max_le.symm

theorem ReadsExpr.call {args : List Expr} (h : ReadsExpr toks e need)
    (hargs : ∀ e ∈ args, ReadsExpr e.tokens e e.nesting) :
    ReadsOperand (inParens toks ++ inParens (commas (rowsOfAll args))) (.call e args)
      (max (need + 1) (nestingOfAll args)) :=
  h.applied (balanced_rowsOfAll hargs).inParens rfl rfl
    (fun n k => reads_applied_call k (reads_expressions hargs (by decide) n)) fun _ => Nat.max_le.symm

/-! ### Operators, choices and assignments -/

theorem ReadsExpr.unary (h : ReadsExpr toks e need) (op : UnaryOp) :
    ReadsExpr (op.token :: inParens toks) (.unary op e) (need + 2) := by
  have hparen : op.token.isParen = false := by cases op <;> rfl
  have hstart : op.token.mayStartArrow = false := by cases op <;> rfl
  exact .of_operators (.cons hparen h.balanced.inParens) (noArrow_of_head hstart) fun n =>
    reads_chain (reads_operand_unary (h.paren.operandBelow n)) _

theorem ReadsExpr.apply {a b : Expr} {need' : Nat} (ha : ReadsExpr toks a need) (hb : ReadsExpr toks' b need')
    (op : Operator) :
    ReadsExpr (inParens toks ++ .mark op.mark :: inParens toks') (op.apply a b) (max (need + 1) (need' + 1)) := by
  have hmark : (Token.mark op.mark).isParen = false ∧ (Token.mark op.mark).isMark .arrow = false := by
    cases op with
    | binary op => cases op <;> exact ⟨rfl, rfl⟩
    | logical op => cases op <;> exact ⟨rfl, rfl⟩
  have hop : op.tightness ∈ [0, 1, 2, 3, 4, 5] := by
    cases op with
    | binary op => cases op <;> decide
    | logical op => cases op <;> decide
  exact .of_operators (ha.balanced.inParens.append (.cons hmark.1 hb.balanced.inParens))
    (noArrow_inParens ha.balanced fun _ _ => hmark.2) fun n =>
      .iff (reads_chain_apply (ha.paren.reads n) (hb.paren.reads n) (by decide) hop) Nat.max_le.symm

theorem ReadsExpr.choice {test a b : Expr} {toks₁ toks₂ toks₃ : List Token} {need₁ need₂ need₃ : Nat}
    (ht : ReadsExpr toks₁ test need₁) (ha : ReadsExpr toks₂ a need₂) (hb : ReadsExpr toks₃ b need₃) :
    ReadsExpr (inParens toks₁ ++ .mark .question :: (inParens toks₂ ++ .mark .colon :: inParens toks₃))
      (.conditional test a b) (max (need₁ + 1) (max (need₂ + 2) (need₃ + 2))) := by
  have hbalanced := ht.balanced.inParens.append (.cons (t := .mark .question) rfl
    (ha.balanced.inParens.append (.cons (t := .mark .colon) rfl hb.balanced.inParens)))
  have hstart :
      NoArrow (inParens toks₁ ++ .mark .question :: (inParens toks₂ ++ .mark .colon :: inParens toks₃)) :=
    noArrow_inParens ht.balanced fun _ _ => rfl
  refine ⟨hbalanced, fun n => reads_assignment hstart (.iff (reads_choice (reads_chain (ht.paren.reads n) _)
    (ha.paren.expr.expression n) (hb.paren.expr.expression n)) ?_)⟩
  rw [Nat.max_le, Nat.max_le]
  rfl

theorem ReadsExpr.assign {target : Target} {need' : Nat} (htarget : ReadsOperand toks target.expr need)
    (he : ReadsExpr toks' e need') :
    ReadsExpr (toks ++ .mark .assign :: inParens toks') (.assign target e) (max need (need' + 2)) := by
  refine ⟨htarget.balanced.append (.cons rfl he.balanced.inParens), fun n =>
    .iff (reads_assign (htarget.noArrow _ fun _ _ => rfl) (reads_conditional (reads_chain (htarget.reads n) _))
      (he.paren.expr.expression n)) ?_⟩
  rw [Nat.max_le]
  rfl

theorem ReadsExpr.arrow (h : ReadsExpr toks e need) (ps : List String) :
    ReadsExpr (paramTokens ps ++ .mark .arrow :: inParens toks) (.arrow ps e) (need + 2) :=
  ⟨(balanced_names ps).inParens.append (.cons rfl h.balanced.inParens), fun n =>
    reads_arrow (h.paren.expr.expression n)⟩

end Syntax
end ScriptImport
