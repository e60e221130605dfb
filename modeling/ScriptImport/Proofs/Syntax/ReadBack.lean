/-
# Reading back what was written

A module that was written down is read back as it was, unless it is nested too deeply (`reads_written`).  The
induction over the syntax tree (`Expr.readsExpr`, `Stmt.readsStmt`) puts the lemmas for each kind of expression and
statement together; imports and exports stand only at the top, where nothing is nested.
-/

import ScriptImport.Proofs.Syntax.ReadStatement

namespace ScriptImport
namespace Syntax

open Syntax.Parser

variable {G : Option Token → Prop} {n : Nat}

/-! ### The induction -/

mutual

/-- **A written expression is read as that expression.** -/
theorem Expr.readsExpr : ∀ e : Expr, ReadsExpr e.tokens e e.nesting
  | .number x => readsExpr_number x
  | .string x => readsExpr_string x
  | .bool b => readsExpr_bool b
  | .null => readsExpr_null
  | .name x => (readsOperand_name x).expr
  | .array es => .array (readsExpr_all es)
  | .object entries => .object (readsExpr_entries entries)
  | .member e x => (e.readsExpr.member x).expr
  | .index e i => (e.readsExpr.index i.readsExpr).expr
  | .call e args => (e.readsExpr.call (readsExpr_all args)).expr
  | .function name ps body => readsExpr_function name ps (readsStmt_block body)
  | .arrow ps e => e.readsExpr.arrow ps
  | .unary op e => e.readsExpr.unary op
  | .binary op a b => a.readsExpr.apply b.readsExpr (.binary op)
  | .logical op a b => a.readsExpr.apply b.readsExpr (.logical op)
  | .conditional test a b => test.readsExpr.choice a.readsExpr b.readsExpr
  | .assign target e => .assign target.readsOperand e.readsExpr

/-- A written target is read as the expression that reads it. -/
theorem Target.readsOperand : ∀ t : Target, ReadsOperand t.tokens t.expr t.nesting
  | .name x => readsOperand_name x
  | .member e x => e.readsExpr.member x
  | .index e i => e.readsExpr.index i.readsExpr

theorem readsExpr_all : ∀ es : List Expr, ∀ e ∈ es, ReadsExpr e.tokens e e.nesting
  | [] => fun _ h => absurd h List.not_mem_nil
  | e :: es => List.forall_mem_cons.2 ⟨e.readsExpr, readsExpr_all es⟩

theorem readsExpr_entries : ∀ entries : List (String × Expr), ∀ e ∈ entries, ReadsExpr e.2.tokens e.2 e.2.nesting
  | [] => fun _ h => absurd h List.not_mem_nil
  | (_, e) :: entries => List.forall_mem_cons.2 ⟨e.readsExpr, readsExpr_entries entries⟩

/-- **A written declaration is read as that declaration.** -/
theorem Declaration.readsDeclaration : ∀ d : Declaration, ReadsDeclaration d.tokens d d.nesting
  | .constant x e => readsDeclaration_constant e.readsExpr x
  | .variable kind x none => readsDeclaration_bare kind x
  | .variable kind x (some e) => readsDeclaration_variable e.readsExpr kind x
  | .function x ps body => readsDeclaration_function x ps (readsStmt_block body)

/-- **A written statement is read as that statement.** -/
theorem Stmt.readsStmt : ∀ s : Stmt, ReadsStmt s.tokens s s.nesting
  | .declare d => d.readsDeclaration.stmt
  | .eval e => e.readsExpr.eval
  | .branch test consequent none => readsStmt_branch test.readsExpr (readsStmt_block consequent)
  | .branch test consequent (some alternate) =>
    readsStmt_branches test.readsExpr (readsStmt_block consequent) (readsStmt_block alternate)
  | .leave none => readsStmt_leave
  | .leave (some e) => e.readsExpr.leave
  | .throw e => e.readsExpr.throw

theorem readsStmt_block : ∀ ss : List Stmt, ∀ s ∈ ss, ReadsStmt s.tokens s s.nesting
  | [] => fun _ h => absurd h List.not_mem_nil
  | s :: ss => List.forall_mem_cons.2 ⟨s.readsStmt, readsStmt_block ss⟩

end

/-! ### Imports and exports -/

theorem reads_moduleName (x : String) : Reads G moduleName [listedToken x] x True := by
  unfold listedToken
  split
  · rename_i hdefault
    subst hdefault
    exact .next (reads_eat rfl) reads_pure
  · exact .eatNot (fun _ _ => rfl) (reads_identifier x)

theorem isWord_self (word : String) : Token.isWord word (.identifier word) = true := decide_eq_true rfl

theorem reads_importName (x : ImportName) : Reads G importName x.tokens x True :=
  .next (reads_moduleName x.imported) (.next (reads_eat (isWord_self _)) (.map (reads_identifier x.localName)))

theorem reads_exportName (x : ExportName) : Reads G exportName x.tokens x True :=
  .next (reads_moduleName x.localName) (.next (reads_eat (isWord_self _)) (.map (reads_moduleName x.exported)))

theorem head_listedToken (x : String) : (listedToken x).isMark .rightBrace = false := by
  unfold listedToken
  split <;> rfl

theorem reads_importSource (source : String) (defaultName : Option String) (names : ImportNames) :
    Reads G (importSource defaultName names) (sourceTokens source) ⟨source, defaultName, names⟩ True :=
  .next (reads_expectWord _) (.next (reads_string source) (.next reads_semicolon reads_pure))

theorem reads_importNames (source : String) (defaultName : Option String) (names : ImportNames) :
    Reads G (importNames defaultName) (names.tokens ++ sourceTokens source) ⟨source, defaultName, names⟩ True := by
  cases names with
  | everything x =>
    exact .next (reads_eat rfl) (.next (reads_expectWord _) (.next (reads_identifier x) (reads_importSource _ _ _)))
  | some ns =>
    have hnames : Reads (fun _ => True) (listUpTo importName .rightBrace)
        (commas (ns.map ImportName.tokens) ++ [.mark .rightBrace]) ns True :=
      .iff (.listUpTo (by decide) trivial trivial (fun x _ => reads_importName x (G := fun _ => True))
        fun x _ => ⟨_, _, rfl, head_listedToken _⟩) (by simp)
    exact .eatNot (fun _ _ => rfl)
      (.next (reads_eat rfl) (.andThen hnames (reads_importSource _ _ _) fun _ _ => trivial))

theorem reads_importing (i : Import) : Reads G importing i.tokens i True := by
  obtain ⟨source, _ | x, names⟩ := i
  · cases names with
    | everything y => exact .peek (reads_importNames source none (.everything y))
    | some ns =>
      cases ns with
      | nil => exact .peek (.next reads_skip (.next reads_semicolon reads_pure))
      | cons n ns => exact .peek (reads_importNames source none (.some (n :: ns)))
  · cases names with
    | everything y =>
      exact .peek (.next reads_skip (.next (reads_eat rfl) (reads_importNames source (some x) (.everything y))))
    | some ns =>
      cases ns with
      | nil => exact .peek (.next reads_skip (.eatNot (fun _ _ => rfl) (reads_importSource _ _ _)))
      | cons n ns =>
        exact .peek (.next reads_skip (.next (reads_eat rfl) (reads_importNames source (some x) (.some (n :: ns)))))

theorem reads_exportNames (ns : List ExportName) :
    Reads (fun _ => True) (listUpTo exportName .rightBrace)
      (commas (ns.map ExportName.tokens) ++ [.mark .rightBrace]) ns True :=
  .iff (.listUpTo (by decide) trivial trivial (fun x _ => reads_exportName x (G := fun _ => True))
    fun x _ => ⟨_, _, rfl, head_listedToken _⟩) (by simp)

theorem reads_exporting (e : Export) (n : Nat) : Reads G (exporting (atDepth n)) e.tokens e (e.nesting ≤ n) := by
  cases e with
  | defaultValue e =>
    refine reads_other rfl (.peek (.next reads_skip (.sees (c := false)
      (fun _ _ => rfl) ?_)))
    exact .iff (.bind (e.readsExpr.paren.expr.expression n) (.next reads_semicolon reads_pure) fun _ _ =>
      ends_mark (by decide)) (and_true _).to_iff
  | defaultFunction x ps body =>
    refine reads_other rfl (.peek (.next reads_skip (.sees (c := true)
      (fun _ _ => rfl) ?_)))
    exact .last (reads_function (some x) ps (reads_block (readsStmt_block body) n)) reads_pure fun _ ho => ho
  | declaration d => exact .last (d.readsDeclaration.reads _ n) reads_pure fun _ ho => ho
  | names ns =>
    refine reads_other rfl (.iff (.peek (.next reads_skip
      (.andThen (reads_exportNames ns) (.eatNot (fun _ _ => rfl) (.next reads_semicolon reads_pure))
        fun _ _ => trivial))) (by simp [Export.nesting]))
  | namesFrom ns source =>
    refine reads_other rfl (.iff (.peek (.next reads_skip
      (.andThen (reads_exportNames ns) (.next (reads_eat (isWord_self _)) (.next (reads_string source)
        (.next reads_semicolon reads_pure))) fun _ _ => trivial))) (by simp [Export.nesting]))
  | allFrom source =>
    refine reads_other rfl (.iff (.peek (.next reads_skip (.next (reads_expectWord _)
      (.next (reads_string source) (.next reads_semicolon reads_pure))))) (by simp [Export.nesting]))

/-! ### Modules -/

theorem reads_item (i : Item) (n : Nat) : Reads NotElse (item (atDepth n)) i.tokens i (i.nesting ≤ n) := by
  cases i with
  | importing i => exact .iff (.next (reads_eat rfl) (.map (reads_importing i))) (by simp [Item.nesting])
  | exporting e => exact .eatNot (fun _ _ => rfl) (.next (reads_eat rfl) (.map (reads_exporting e n)))
  | statement s =>
    obtain ⟨t, ts, htoks, ht⟩ := s.readsStmt.head
    have hread := s.readsStmt.reads n
    rw [htoks] at hread
    rw [Item.tokens, htoks]
    exact .eatNot (fun _ _ => (Token.of_startsStatement ht).2.2.1) (.eatNot
      (fun _ _ => (Token.of_startsStatement ht).2.2.2) (.map hread))

/-- What stands behind an item is no `else`. -/
theorem head_item (i : Item) : ∃ t ts, i.tokens = t :: ts ∧ t.isKeyword .elseWord = false := by
  cases i with
  | importing i => exact ⟨_, _, rfl, rfl⟩
  | exporting e => exact ⟨_, _, rfl, rfl⟩
  | statement s =>
    obtain ⟨t, ts, htoks, ht⟩ := s.readsStmt.head
    exact ⟨t, ts, htoks, (Token.of_startsStatement ht).2.1⟩

theorem reads_items {is : List Item} {k : Nat} (hk : (is.flatMap Item.tokens).length ≤ k) :
    Reads (· = none) (items (atDepth n) k) (is.flatMap Item.tokens) is (∀ i ∈ is, i.nesting ≤ n) := by
  induction is generalizing k with
  | nil =>
    cases k with
    | zero => exact reads_pure.iff (by simp)
    | succ k =>
      refine .peekBehind ?_
      rintro _ rfl
      exact reads_pure.iff (by simp)
  | cons i is ih =>
    obtain ⟨t, ts, htoks, ht⟩ := head_item i
    have hread := reads_item i n
    rw [List.flatMap_cons] at hk ⊢
    rw [htoks] at hread hk ⊢
    simp only [List.cons_append, List.length_cons, List.length_append] at hk
    obtain ⟨k, rfl⟩ := Nat.exists_eq_add_one.2 (Nat.lt_of_lt_of_le (Nat.zero_lt_succ _) hk)
    refine .peek (.iff (.bind hread (.map (ih (by omega))) fun o ho => ?_) (by simp))
    cases is with
    | nil => exact ho ▸ rfl
    | cons i' is =>
      obtain ⟨t', ts', htoks', ht'⟩ := head_item i'
      rw [List.flatMap_cons, htoks']
      exact ht'

theorem reads_program (p : Program) : Reads (· = none) program p.tokens p (p.nesting ≤ maxNesting) :=
  .budget fun _ hk => .iff (.map (f := Program.mk) (reads_items hk)) foldr_max_le.symm

theorem parse_of_run {source : String} {ts : List Located} {stop : Span} {p : Program} {rest : List Located}
    (hts : tokenize source = .ok ⟨ts, stop⟩) (hrun : program.run ts = .ok (p, rest)) : parse source = .ok p := by
  unfold parse
  rw [hts]
  dsimp only
  rw [hrun]

/-- **A written module is read back** as it was if it is not nested too deeply, and otherwise that is what is found
wrong with it. -/
theorem reads_written (p : Program) (ts : List Located) (h : ts.map (·.token) = p.tokens) :
    (p.nesting ≤ maxNesting → program.run ts = .ok (p, []) ∧
      ∀ source stop, tokenize source = .ok ⟨ts, stop⟩ → parse source = .ok p) ∧
    (maxNesting < p.nesting → ∃ found, program.run ts = .error ⟨.tooDeep, found⟩) := by
  have hread := reads_program p ts [] h rfl
  rw [List.append_nil] at hread
  refine ⟨fun hfits => ⟨hread.1 hfits, fun source stop hts => ?_⟩, fun hdeep => hread.2 (Nat.not_le.2 hdeep)⟩
  exact parse_of_run hts (hread.1 hfits)

/-- An import and an assignment are read back, and 65 operators one inside the other are nested too deeply. -/
theorem reads_written_assignment :
    let p : Program := ⟨[.importing ⟨"m", some "d", .some [⟨"default", "e"⟩]⟩, .statement (.eval (.assign
      (.member (.name "x") "default") (.arrow ["y"] (.object [("a b", .call (.name "y") [.null])]))))]⟩
    let deep : Program := ⟨[.statement (.eval ((List.replicate 65 UnaryOp.not).foldr .unary .null))]⟩
    let place (t : Token) : Located := ⟨t, ⟨0, 0, 1, 1⟩⟩
    p.nesting = 10 ∧ program.run (p.tokens.map place) = .ok (p, []) ∧
      deep.nesting = 132 ∧ ∃ found, program.run (deep.tokens.map place) = .error ⟨.tooDeep, found⟩ := by
  intro p deep place
  have hplace : ∀ toks : List Token, (toks.map place).map (·.token) = toks := fun toks => by
    rw [List.map_map]
    exact List.map_id toks
  have hp : p.nesting = 10 := by decide
  have hdeep : deep.nesting = 132 := by decide
  exact ⟨hp, ((reads_written p _ (hplace _)).1 (by rw [hp]; decide)).1, hdeep,
    (reads_written deep _ (hplace _)).2 (by rw [hdeep]; decide)⟩

end Syntax
end ScriptImport
