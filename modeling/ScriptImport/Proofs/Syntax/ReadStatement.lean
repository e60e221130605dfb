/-
# Reading written statements

`ReadsStmt` says of tokens that they stand for a statement at every level, as `ReadsExpr` does for expressions.  A
statement may be followed by anything but `else`, and starts with neither `else` nor a brace that closes a block.  So
the statements of a block are read one after the other (`reads_statements`).
-/

import ScriptImport.Proofs.Syntax.ReadExpression

namespace ScriptImport
namespace Syntax

open Syntax.Parser

/-! ### Levels -/

/-- The next token does not go on with a branch. -/
def NotElse (o : Option Token) : Prop := o.any (Token.isKeyword .elseWord) = false

/-- Whether a statement may start with a token; `else` and a brace that closes a block go on with what stands
before them, and `import` and `export` start other items. -/
def Token.startsStatement (t : Token) : Bool :=
  ! (t.isMark .rightBrace || t.isKeyword .elseWord || t.isKeyword .importWord || t.isKeyword .exportWord)

/-- At every level the tokens are read as the statement, if it may go `need` levels further down. -/
structure ReadsStmt (toks : List Token) (s : Stmt) (need : Nat) : Prop where
  balanced : Balanced toks
  head : ∃ t ts, toks = t :: ts ∧ t.startsStatement
  reads : ∀ n, Reads NotElse (statement (atDepth n)) toks s (need ≤ n)

variable {G : Option Token → Prop} {toks toks' : List Token} {e : Expr} {s : Stmt} {need n : Nat}

theorem Token.of_startsStatement {t : Token} (h : t.startsStatement) : t.isMark .rightBrace = false ∧
    t.isKeyword .elseWord = false ∧ t.isKeyword .importWord = false ∧ t.isKeyword .exportWord = false := by
  simpa [startsStatement, and_assoc] using h

theorem ReadsStmt.statement (h : ReadsStmt toks s need) (n : Nat) :
    Reads NotElse (atDepth n).statement toks s (need < n) := by
  cases n with
  | zero => exact reads_tooDeep.iff (by simp)
  | succ n => exact (h.reads n).iff Nat.lt_succ_iff.symm

/-! ### Blocks and functions -/

theorem balanced_tokensOfBlock {ss : List Stmt} (h : ∀ s ∈ ss, ReadsStmt s.tokens s s.nesting) :
    Balanced (tokensOfBlock ss) := by
  induction ss with
  | nil => exact balanced_nil
  | cons s ss ih =>
    have hrest := ih fun s' hs' => h s' (List.mem_cons_of_mem _ hs')
    exact (h s (List.mem_cons_self ..)).balanced.append hrest

/-- What follows a statement of a block is no `else`. -/
theorem notElse_tokensOfBlock {ss : List Stmt} (h : ∀ s ∈ ss, ReadsStmt s.tokens s s.nesting) {o : Option Token}
    (ho : NotElse o) : NotElse ((tokensOfBlock ss).head?.or o) := by
  cases ss with
  | nil => exact ho
  | cons s ss =>
    obtain ⟨t, ts, hs, ht⟩ := (h s (List.mem_cons_self ..)).head
    rw [tokensOfBlock, hs, List.cons_append, List.head?_cons, Option.some_or]
    exact (Token.of_startsStatement ht).2.1

theorem reads_statements {ss : List Stmt} (h : ∀ s ∈ ss, ReadsStmt s.tokens s s.nesting) {k : Nat}
    (hk : (tokensOfBlock ss).length < k) :
    Reads (· = some (.mark .rightBrace)) (statements (atDepth n) k) (tokensOfBlock ss) ss
      (nestingOfBlock ss ≤ n) := by
  induction ss generalizing k with
  | nil =>
    obtain ⟨k, rfl⟩ := Nat.exists_eq_add_one.2 hk
    refine .iff (.sees (c := true) ?_ reads_pure) (by simp [nestingOfBlock])
    rintro _ rfl
    rfl
  | cons s ss ih =>
    obtain ⟨k, rfl⟩ := Nat.exists_eq_add_one.2 (Nat.lt_of_le_of_lt (Nat.zero_le _) hk)
    have hs := h s (List.mem_cons_self ..)
    have hrest : ∀ s ∈ ss, ReadsStmt s.tokens s s.nesting := fun s' hs' => h s' (List.mem_cons_of_mem _ hs')
    obtain ⟨t, ts, htoks, ht⟩ := hs.head
    have hread := hs.statement n
    rw [tokensOfBlock] at hk ⊢
    rw [htoks] at hread hk ⊢
    simp only [List.cons_append, List.length_cons, List.length_append] at hk
    refine .sees (c := false) (fun _ _ => ?_) (.peek (.iff (.bind hread (.map (ih hrest (by omega)))
      fun o ho => ?_) ?_))
    · exact (Token.of_startsStatement ht).1
    · exact notElse_tokensOfBlock hrest (ho ▸ rfl)
    · rw [nestingOfBlock, Nat.max_le]
      rfl

theorem reads_block {ss : List Stmt} (h : ∀ s ∈ ss, ReadsStmt s.tokens s s.nesting) (n : Nat) :
    Reads G (block (atDepth n)) (inBraces (tokensOfBlock ss)) ss (nestingOfBlock ss ≤ n) := by
  refine .next (reads_expectMark _) (.budget fun k hk => ?_)
  rw [List.length_append, List.length_singleton] at hk
  exact .iff (.bind (reads_statements h hk) (.next (reads_expectMark _) reads_pure) fun _ _ => rfl) (and_true _).to_iff

theorem reads_function {inner : Level} {body : List Stmt} {P : Prop} (name : Option String) (ps : List String)
    (h : Reads G (block inner) (inBraces toks) body P) :
    Reads G (function inner) (.keyword .functionWord :: (name.toList.map .identifier ++
      (paramTokens ps ++ inBraces toks))) (name, ps, body) P := by
  have hrest : ∀ name : Option String, Reads G (do let ps ← params; return (name, ps, ← block inner))
      (paramTokens ps ++ inBraces toks) (name, ps, body) P := fun name =>
    .andThen (reads_params ps) h.map fun _ _ => trivial
  cases name with
  | none => exact .next (reads_expectKeyword _) (.peek (hrest none))
  | some x => exact .next (reads_expectKeyword _) (.peek (.next reads_skip (hrest (some x))))

theorem reads_namedFunction {inner : Level} {body : List Stmt} {P : Prop} (x : String) (ps : List String)
    (h : Reads G (block inner) (inBraces toks) body P) :
    Reads G (namedFunction inner) (.keyword .functionWord :: .identifier x :: (paramTokens ps ++ inBraces toks))
      (x, ps, body) P :=
  .next (reads_expectKeyword _) (.peek (.next reads_skip
    (.andThen (reads_params ps) h.map fun _ _ => trivial)))

theorem balanced_function {body : List Stmt} (ps : List String) (h : ∀ s ∈ body, ReadsStmt s.tokens s s.nesting) :
    Balanced (paramTokens ps ++ inBraces (tokensOfBlock body)) :=
  (balanced_names ps).inParens.append ((balanced_tokensOfBlock h).enclosed rfl rfl)

theorem readsExpr_function {body : List Stmt} (name : Option String) (ps : List String)
    (h : ∀ s ∈ body, ReadsStmt s.tokens s s.nesting) :
    ReadsExpr (.keyword .functionWord :: (name.toList.map .identifier ++
      (paramTokens ps ++ inBraces (tokensOfBlock body)))) (.function name ps body) (nestingOfBlock body) := by
  have hname : Balanced (name.toList.map .identifier ++ (paramTokens ps ++ inBraces (tokensOfBlock body))) := by
    cases name with
    | none => exact balanced_function ps h
    | some x => exact (balanced_function ps h).cons rfl
  exact .of_primary (hname.cons rfl) rfl rfl fun n =>
    .peek (.last (reads_function name ps (reads_block h n)) reads_pure fun _ ho => ho)

/-! ### Declarations -/

/-- In front of any rest the tokens are read as the declaration, if it may go `need` levels further down. -/
structure ReadsDeclaration (toks : List Token) (d : Declaration) (need : Nat) : Prop where
  balanced : Balanced toks
  head : ∃ t ts, toks = t :: ts ∧ t.startsStatement
  reads : ∀ G n, Reads G (declaration? (atDepth n)) toks (some d) (need ≤ n)

theorem reads_binding (h : ReadsExpr toks e need) (x : String) (n : Nat) :
    Reads Ends (binding (atDepth n)) (.identifier x :: initTokens toks) (x, some e) (need + 2 ≤ n) :=
  .next (reads_identifier x) (.next (reads_eat rfl) (.map (h.paren.expr.expression n)))

theorem reads_binding_bare {inner : Level} (x : String) : Reads Ends (binding inner) [.identifier x] (x, none) True :=
  .next (reads_identifier x) (.eatNot (fun _ ho => ho.not_isMark (by decide)) reads_pure)

theorem balanced_init (h : Balanced toks) (x : String) :
    Balanced (.identifier x :: (initTokens toks ++ [.mark .semicolon])) :=
  .cons rfl ((h.inParens.cons (t := .mark .assign) rfl).append (balanced_nil.cons rfl))

theorem readsDeclaration_constant (h : ReadsExpr toks e need) (x : String) :
    ReadsDeclaration (.keyword .constWord :: .identifier x :: (initTokens toks ++ [.mark .semicolon]))
      (.constant x e) (need + 2) where
  balanced := .cons rfl (balanced_init h.balanced x)
  head := ⟨_, _, rfl, rfl⟩
  reads _ n := .iff (.peek (.next reads_skip (.bind (reads_binding h x n) (.next reads_semicolon reads_pure) fun _ _ =>
    ends_mark (by decide)))) (and_true _).to_iff

theorem reads_variable {init : Option Expr} {x : String} {P : Prop} (kind : VariableKind)
    (h : Reads Ends (binding (atDepth n)) toks (x, init) P) :
    Reads G (declaration? (atDepth n)) (.keyword kind.word :: (toks ++ [.mark .semicolon]))
      (some (.variable kind x init)) P := by
  have hsemicolon : ∀ o, G o → Ends ([Token.mark .semicolon].head?.or o) := fun _ _ => ends_mark (by decide)
  cases kind with
  | letWord =>
    exact .iff (.peek (.next reads_skip (.bind h (.next reads_semicolon reads_pure) hsemicolon))) (and_true _).to_iff
  | varWord =>
    exact .iff (.peek (.next reads_skip (.bind h (.next reads_semicolon reads_pure) hsemicolon))) (and_true _).to_iff

theorem readsDeclaration_variable (h : ReadsExpr toks e need) (kind : VariableKind) (x : String) :
    ReadsDeclaration (.keyword kind.word :: .identifier x :: (initTokens toks ++ [.mark .semicolon]))
      (.variable kind x (some e)) (need + 2) where
  balanced := .cons rfl (balanced_init h.balanced x)
  head := ⟨_, _, rfl, by cases kind <;> rfl⟩
  reads _ n := reads_variable kind (reads_binding h x n)

theorem readsDeclaration_bare (kind : VariableKind) (x : String) :
    ReadsDeclaration [.keyword kind.word, .identifier x, .mark .semicolon] (.variable kind x none) 0 where
  balanced := .cons rfl (.cons rfl (balanced_nil.cons rfl))
  head := ⟨_, _, rfl, by cases kind <;> rfl⟩
  reads _ _ := .iff (reads_variable kind (reads_binding_bare x)) (by simp)

theorem readsDeclaration_function {body : List Stmt} (x : String) (ps : List String)
    (h : ∀ s ∈ body, ReadsStmt s.tokens s s.nesting) :
    ReadsDeclaration (.keyword .functionWord :: .identifier x :: (paramTokens ps ++ inBraces (tokensOfBlock body)))
      (.function x ps body) (nestingOfBlock body) where
  balanced := .cons rfl (.cons rfl (balanced_function ps h))
  head := ⟨_, _, rfl, rfl⟩
  reads _ n := .peek (.last (reads_namedFunction x ps (reads_block h n)) reads_pure fun _ ho => ho)

/-- Whether a declaration may start with a token. -/
def Token.startsDeclaration : Token → Bool
  | .keyword k => k ∈ [Keyword.constWord, .letWord, .varWord, .functionWord]
  | _ => false

/-- Other tokens are left to other productions. -/
theorem declaration?_other {inner : Level} {t : Token} (ht : t.startsDeclaration = false) {ts rest : List Located}
    (hts : ts.map (·.token) = t :: toks) : declaration? inner (ts ++ rest) = .ok (none, ts ++ rest) := by
  obtain ⟨⟨token, span⟩, ts, rfl, rfl, -⟩ := List.map_eq_cons_iff.1 hts
  cases token with
  | keyword k => cases k <;> first | rfl | cases ht
  | _ => rfl

theorem reads_other {α : Type} {inner : Level} {t : Token} {f : Option Declaration → Parser α} {a : α} {P : Prop}
    (ht : t.startsDeclaration = false) (h : Reads G (f none) (t :: toks) a P) :
    Reads G (declaration? inner >>= f) (t :: toks) a P :=
  .look (fun _ _ hts _ => declaration?_other ht hts) h

/-! ### Statements -/

theorem ReadsDeclaration.stmt {d : Declaration} (h : ReadsDeclaration toks d need) :
    ReadsStmt toks (.declare d) need :=
  ⟨h.balanced, h.head, fun n => .last (h.reads NotElse n) reads_pure fun _ ho => ho⟩

theorem balanced_ended (h : Balanced toks) : Balanced (inParens toks ++ [.mark .semicolon]) :=
  h.inParens.append (balanced_nil.cons rfl)

theorem ReadsExpr.ended {f : Expr → Stmt} (h : ReadsExpr toks e need) (n : Nat) :
    Reads G (do let e ← (atDepth n).expression; semicolon; return f e) (inParens toks ++ [.mark .semicolon]) (f e)
      (need + 2 ≤ n) :=
  .iff (.bind (h.paren.expr.expression n) (.next reads_semicolon reads_pure) fun _ _ => ends_mark (by decide))
    (and_true _).to_iff

theorem ReadsExpr.eval (h : ReadsExpr toks e need) :
    ReadsStmt (inParens toks ++ [.mark .semicolon]) (.eval e) (need + 2) where
  balanced := balanced_ended h.balanced
  head := ⟨_, _, rfl, rfl⟩
  reads n := reads_other rfl (.peek (h.ended n))

theorem ReadsExpr.throw (h : ReadsExpr toks e need) :
    ReadsStmt (.keyword .throwWord :: (inParens toks ++ [.mark .semicolon])) (.throw e) (need + 2) where
  balanced := .cons rfl (balanced_ended h.balanced)
  head := ⟨_, _, rfl, rfl⟩
  reads n := reads_other rfl (.peek (.next reads_skip (h.ended n)))

theorem ReadsExpr.leave (h : ReadsExpr toks e need) :
    ReadsStmt (.keyword .returnWord :: (inParens toks ++ [.mark .semicolon])) (.leave (some e)) (need + 2) where
  balanced := .cons rfl (balanced_ended h.balanced)
  head := ⟨_, _, rfl, rfl⟩
  reads n := reads_other rfl (.peek (.next reads_skip (.peek (h.ended n))))

theorem readsStmt_leave : ReadsStmt [.keyword .returnWord, .mark .semicolon] (.leave none) 0 where
  balanced := .cons rfl (balanced_nil.cons rfl)
  head := ⟨_, _, rfl, rfl⟩
  reads _ := reads_other rfl (.iff (.peek (.next reads_skip (.peek
    (.next reads_semicolon reads_pure)))) (by simp))

theorem reads_branch {ss : List Stmt} (h : ∀ s ∈ ss, ReadsStmt s.tokens s s.nesting) (n : Nat) :
    Reads G (branch (atDepth n)) (inBraces (tokensOfBlock ss)) ss (nestingOfBlock ss ≤ n) := by
  have hrun : branch (atDepth n) = (Parser.sees (Token.isMark .leftBrace) >>= fun c =>
    if c then block (atDepth n) else do return [← (atDepth n).statement]) := rfl
  rw [hrun]
  exact .sees (c := true) (fun _ _ => rfl) (reads_block h n)

theorem inParens_append (toks toks' : List Token) :
    inParens toks ++ toks' = .mark .leftParen :: (toks ++ .mark .rightParen :: toks') := by
  rw [inParens, enclosed, List.cons_append, List.append_assoc, List.singleton_append]

/-- The condition of a branch, and what follows it. -/
theorem reads_condition {f : Expr → Parser Stmt} {P : Prop} (h : ReadsExpr toks e need) (n : Nat)
    (hf : Reads G (f e) toks' s P) :
    Reads G (do expectMark .leftParen; let e ← (atDepth n).expression; expectMark .rightParen; f e)
      (inParens (inParens toks) ++ toks') s (need + 2 ≤ n ∧ P) := by
  rw [inParens_append]
  exact .next (reads_expectMark _) (.bind (h.paren.expr.expression n) (.next (reads_expectMark _) hf) fun _ _ =>
    ends_mark (by decide))

theorem readsStmt_branch {consequent : List Stmt} (h : ReadsExpr toks e need)
    (hconsequent : ∀ s ∈ consequent, ReadsStmt s.tokens s s.nesting) :
    ReadsStmt (.keyword .ifWord :: (inParens (inParens toks) ++ inBraces (tokensOfBlock consequent)))
      (.branch e consequent none) (max (need + 2) (nestingOfBlock consequent)) where
  balanced := .cons rfl (h.balanced.inParens.inParens.append ((balanced_tokensOfBlock hconsequent).enclosed rfl rfl))
  head := ⟨_, _, rfl, rfl⟩
  reads n := reads_other rfl (.iff (.peek (.next reads_skip (reads_condition h n
    (.last (reads_branch hconsequent n) (.eatNot (fun _ ho => ho) reads_pure) fun _ ho => ho)))) Nat.max_le.symm)

theorem readsStmt_branches {consequent alternate : List Stmt} (h : ReadsExpr toks e need)
    (hconsequent : ∀ s ∈ consequent, ReadsStmt s.tokens s s.nesting)
    (halternate : ∀ s ∈ alternate, ReadsStmt s.tokens s s.nesting) :
    ReadsStmt (.keyword .ifWord :: (inParens (inParens toks) ++ (inBraces (tokensOfBlock consequent) ++
        .keyword .elseWord :: inBraces (tokensOfBlock alternate))))
      (.branch e consequent (some alternate))
      (max (need + 2) (max (nestingOfBlock consequent) (nestingOfBlock alternate))) where
  balanced :=
    have hbraces := ((balanced_tokensOfBlock hconsequent).enclosed rfl rfl).append
      (.cons rfl ((balanced_tokensOfBlock halternate).enclosed rfl rfl))
    .cons rfl (h.balanced.inParens.inParens.append hbraces)
  head := ⟨_, _, rfl, rfl⟩
  reads n := by
    refine reads_other rfl (.iff (.peek (.next reads_skip (reads_condition h n
      (.bind (reads_branch hconsequent n (G := fun _ => True)) (.next (reads_eat rfl)
        (.map (reads_branch halternate n))) fun _ _ => trivial)))) ?_)
    rw [Nat.max_le, Nat.max_le]

end Syntax
end ScriptImport
