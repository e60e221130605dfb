/-
# The forms of trees that a source can have

The grammar of modules as predicates on trees.  `Forms` are the expressions, operands and statements of one level
of nesting, and everything is said over the forms of the level below, which an expression is made of when it stands
in brackets, in a list or in a function.  Inside one level an operand can only have things applied to it and can be
put between operators: `Postfixed` and `Chained` grow to the left without end, while a right operand is tighter
than its operator, so that `Chained` grows to the right at most once for each tightness.

The forms follow the productions (`yields_atDepth`), so a source that is read has the forms of a module over its own
tokens (`itemForm_of_parse`).
-/

import ScriptImport.Proofs.Syntax.Yields

namespace ScriptImport
namespace Syntax

/-- The forms of one level of nesting. -/
structure Forms where
  expression : Expr → Prop
  operand : Expr → Prop
  statement : Stmt → Prop

section

variable (T : Token → Prop) (inner : Forms)

/-- A name that a token has in a given way. -/
def Named (f : Token → Option String) (x : String) : Prop := ∃ t, T t ∧ f t = some x

/-- An entry of an object literal; a key alone is also the name of its value. -/
inductive EntryForm : String × Expr → Prop where
  | value {k : String} {e : Expr} (hk : Named T Token.key? k) (he : inner.expression e) : EntryForm (k, e)
  | short {k : String} (hk : Named T Token.key? k) : EntryForm (k, .name k)

/-- An expression that has no operator outside. -/
inductive Primary : Expr → Prop where
  | number (x : Float) : Primary (.number x)
  | string (s : String) : Primary (.string s)
  | bool (b : Bool) : Primary (.bool b)
  | null : Primary .null
  | name {x : String} (hx : T (.identifier x)) : Primary (.name x)
  | function {name : Option String} {ps : List String} {body : List Stmt}
      (hname : ∀ x ∈ name, T (.identifier x)) (hps : ∀ x ∈ ps, T (.identifier x))
      (hbody : ∀ s ∈ body, inner.statement s) : Primary (.function name ps body)
  | nested {e : Expr} (he : inner.expression e) : Primary e
  | array {es : List Expr} (hes : ∀ e ∈ es, inner.expression e) : Primary (.array es)
  | object {entries : List (String × Expr)} (hentries : ∀ e ∈ entries, EntryForm T inner e) :
      Primary (.object entries)

/-- An expression and what is applied to it. -/
inductive Postfixed : Expr → Prop where
  | primary {e : Expr} (he : Primary T inner e) : Postfixed e
  | member {e : Expr} {x : String} (he : Postfixed e) (hx : Named T Token.propertyName? x) :
      Postfixed (.member e x)
  | index {e i : Expr} (he : Postfixed e) (hi : inner.expression i) : Postfixed (.index e i)
  | call {e : Expr} {args : List Expr} (he : Postfixed e) (hargs : ∀ a ∈ args, inner.expression a) :
      Postfixed (.call e args)

/-- An operand of an operator. -/
inductive OperandForm : Expr → Prop where
  | unary {op : UnaryOp} {e : Expr} (he : inner.operand e) : OperandForm (.unary op e)
  | postfixed {e : Expr} (he : Postfixed T inner e) : OperandForm e

/-- Operands with operators of `n` degrees of tightness between them. -/
inductive Chained : (n : Nat) → Expr → Prop where
  | operand {e : Expr} (he : OperandForm T inner e) : Chained 0 e
  | tighter {n : Nat} {e : Expr} (he : Chained n e) : Chained (n + 1) e
  | apply {n : Nat} {left right : Expr} (op : Operator) (hleft : Chained (n + 1) left)
      (hright : Chained n right) : Chained (n + 1) (op.apply left right)

/-- A chain of operators, or a choice between two expressions. -/
inductive ConditionalForm : Expr → Prop where
  | operators {e : Expr} (he : Chained T inner 6 e) : ConditionalForm e
  | choice {test a b : Expr} (ht : Chained T inner 6 test) (ha : inner.expression a) (hb : inner.expression b) :
      ConditionalForm (.conditional test a b)

/-- An expression of any form. -/
inductive ExpressionForm : Expr → Prop where
  | conditional {e : Expr} (he : ConditionalForm T inner e) : ExpressionForm e
  | assign {target : Target} {e : Expr} (ht : ConditionalForm T inner target.expr) (he : inner.expression e) :
      ExpressionForm (.assign target e)
  | arrow {ps : List String} {e : Expr} (hps : ∀ x ∈ ps, T (.identifier x)) (he : inner.expression e) :
      ExpressionForm (.arrow ps e)
  | block {ps : List String} {body : List Stmt} (hps : ∀ x ∈ ps, T (.identifier x))
      (hbody : ∀ s ∈ body, inner.statement s) : ExpressionForm (.function none ps body)

/-- A statement that binds a name. -/
inductive DeclarationForm : Declaration → Prop where
  | constant {x : String} {e : Expr} (hx : T (.identifier x)) (he : inner.expression e) :
      DeclarationForm (.constant x e)
  | variable {kind : VariableKind} {x : String} {init : Option Expr} (hx : T (.identifier x))
      (hinit : ∀ e ∈ init, inner.expression e) : DeclarationForm (.variable kind x init)
  | function {x : String} {ps : List String} {body : List Stmt} (hx : T (.identifier x))
      (hps : ∀ y ∈ ps, T (.identifier y)) (hbody : ∀ s ∈ body, inner.statement s) :
      DeclarationForm (.function x ps body)

/-- A statement. -/
inductive StatementForm : Stmt → Prop where
  | declare {d : Declaration} (hd : DeclarationForm T inner d) : StatementForm (.declare d)
  | eval {e : Expr} (he : inner.expression e) : StatementForm (.eval e)
  | branch {test : Expr} {consequent : List Stmt} {alternate : Option (List Stmt)}
      (ht : inner.expression test) (hconsequent : ∀ s ∈ consequent, inner.statement s)
      (halternate : ∀ ss ∈ alternate, ∀ s ∈ ss, inner.statement s) :
      StatementForm (.branch test consequent alternate)
  | leave {value : Option Expr} (he : ∀ e ∈ value, inner.expression e) : StatementForm (.leave value)
  | throw {e : Expr} (he : inner.expression e) : StatementForm (.throw e)

/-- The names that an import binds are identifiers. -/
structure ImportForm (i : Import) : Prop where
  defaultName : ∀ x ∈ i.defaultName, T (.identifier x)
  everything : ∀ x, i.names = .everything x → T (.identifier x)
  some : ∀ ns, i.names = .some ns → ∀ n ∈ ns, T (.identifier n.localName)

/-- A name in an import or export list: an identifier, or the name of the default export. -/
def ListedName (x : String) : Prop := x = "default" ∨ T (.identifier x)

/-- An export. -/
inductive ExportForm : Export → Prop where
  | defaultValue {e : Expr} (he : inner.expression e) : ExportForm (.defaultValue e)
  | defaultNameless {ps : List String} {body : List Stmt} (hps : ∀ x ∈ ps, T (.identifier x))
      (hbody : ∀ s ∈ body, inner.statement s) : ExportForm (.defaultValue (.function none ps body))
  | defaultFunction {x : String} {ps : List String} {body : List Stmt} (hx : T (.identifier x))
      (hps : ∀ y ∈ ps, T (.identifier y)) (hbody : ∀ s ∈ body, inner.statement s) :
      ExportForm (.defaultFunction x ps body)
  | declaration {d : Declaration} (hd : DeclarationForm T inner d) : ExportForm (.declaration d)
  | names {ns : List ExportName} (hns : ∀ n ∈ ns, ListedName T n.localName ∧ ListedName T n.exported) :
      ExportForm (.names ns)
  | namesFrom {ns : List ExportName} (hns : ∀ n ∈ ns, ListedName T n.localName ∧ ListedName T n.exported)
      (source : String) : ExportForm (.namesFrom ns source)
  | allFrom (source : String) : ExportForm (.allFrom source)

/-- An item of a module. -/
inductive ItemForm : Item → Prop where
  | importing {i : Import} (hi : ImportForm T i) : ItemForm (.importing i)
  | exporting {e : Export} (he : ExportForm T inner e) : ItemForm (.exporting e)
  | statement {s : Stmt} (hs : StatementForm T inner s) : ItemForm (.statement s)

end

/-- The forms that may go `n` levels further down. -/
def forms (T : Token → Prop) : (n : Nat) → Forms
  | 0 => ⟨fun _ => False, fun _ => False, fun _ => False⟩
  | n + 1 =>
    let inner := forms T n
    ⟨ExpressionForm T inner, OperandForm T inner, StatementForm T inner⟩

/-- The productions of a level give its forms. -/
structure Level.Gives (T : Token → Prop) (inner : Level) (f : Forms) : Prop where
  expression : Parser.Yields T inner.expression f.expression
  operand : Parser.Yields T inner.operand f.operand
  statement : Parser.Yields T inner.statement f.statement

namespace Parser

variable {T : Token → Prop} {inner : Level} {f : Forms}

/-! ### Names, keys and functions -/

theorem yields_propertyName : Yields T propertyName (Named T Token.propertyName?) := by
  refine yields_peek.bind fun t? ht? => ?_
  split
  · rename_i x hx
    obtain ⟨t, ht, hx⟩ := Option.bind_eq_some_iff.1 hx
    exact yields_skip.andThen fun _ => yields_pure ⟨t, ht? t ht, hx⟩
  · exact yields_fail _

theorem yields_key : Yields T key (Named T Token.key?) := by
  refine yields_peek.bind fun t? ht? => ?_
  split
  · rename_i x hx
    obtain ⟨t, ht, hx⟩ := Option.bind_eq_some_iff.1 hx
    exact yields_skip.andThen fun _ => yields_pure ⟨t, ht? t ht, hx⟩
  · exact yields_fail _

theorem yields_entry (h : inner.Gives T f) : Yields T (entry inner) (EntryForm T f) := by
  refine yields_key.bind fun k hk => (yields_eat _).andThen fun hasValue => ?_
  cases hasValue with
  | true => exact h.expression.bind fun e he => yields_pure (.value hk he)
  | false => exact yields_pure (.short hk)

theorem yields_statements (h : inner.Gives T f) (budget : Nat) :
    Yields T (statements inner budget) fun ss => ∀ s ∈ ss, f.statement s := by
  induction budget with
  | zero => exact yields_fail _
  | succ budget ih =>
    refine (yields_sees _).andThen fun closed => ?_
    cases closed with
    | true => exact yields_pure fun s hs => absurd hs List.not_mem_nil
    | false =>
      have hmore : Yields T (do return (← inner.statement) :: (← statements inner budget))
          fun ss => ∀ s ∈ ss, f.statement s := by
        refine h.statement.bind fun s hs => ih.bind fun ss hss => yields_pure fun s' hs' => ?_
        rcases List.mem_cons.1 hs' with rfl | hs'
        · exact hs
        · exact hss s' hs'
      refine yields_peek.bind fun t? _ => ?_
      cases t? with
      | none => exact (yields_fail (Q := fun _ => False) _).bind fun _ hno => hno.elim
      | some t => exact hmore

theorem yields_block (h : inner.Gives T f) : Yields T (block inner) fun ss => ∀ s ∈ ss, f.statement s :=
  (yields_expectMark _).andThen fun _ => yields_budget.andThen fun budget =>
    (yields_statements h budget).bind fun _ hss => (yields_expectMark _).andThen fun _ => yields_pure hss

theorem yields_params : Yields T params fun ps => ∀ x ∈ ps, T (.identifier x) :=
  (yields_expectMark _).andThen fun _ => yields_identifier.listUpTo _

theorem yields_function (h : inner.Gives T f) : Yields T (function inner) fun (name, ps, body) =>
    (∀ x ∈ name, T (.identifier x)) ∧ (∀ x ∈ ps, T (.identifier x)) ∧ ∀ s ∈ body, f.statement s := by
  refine (yields_expectKeyword _).andThen fun _ => yields_peek.bind fun t? ht? => ?_
  have hrest : ∀ name : Option String, (∀ x ∈ name, T (.identifier x)) →
      Yields T (do let ps ← params; return (name, ps, ← block inner)) fun (name, ps, body) =>
        (∀ x ∈ name, T (.identifier x)) ∧ (∀ x ∈ ps, T (.identifier x)) ∧ ∀ s ∈ body, f.statement s :=
    fun name hname => yields_params.bind fun ps hps => (yields_block h).bind fun body hbody =>
      yields_pure ⟨hname, hps, hbody⟩
  split
  · rename_i x
    refine yields_skip.andThen fun _ => hrest (some x) fun y hy => ?_
    obtain rfl := Option.some.inj hy
    exact ht? _ rfl
  · exact hrest none nofun

theorem yields_namedFunction (h : inner.Gives T f) : Yields T (namedFunction inner) fun (x, ps, body) =>
    T (.identifier x) ∧ (∀ y ∈ ps, T (.identifier y)) ∧ ∀ s ∈ body, f.statement s := by
  refine (yields_expectKeyword _).andThen fun _ => yields_peek.bind fun t? ht? => ?_
  split
  · exact yields_skip.andThen fun _ => yields_params.bind fun ps hps => (yields_block h).bind fun body hbody =>
      yields_pure ⟨ht? _ rfl, hps, hbody⟩
  · exact yields_fail _

/-! ### Expressions -/

theorem yields_primary (h : inner.Gives T f) : Yields T (primary inner) (Primary T f) := by
  refine yields_peek.bind fun t? ht? => ?_
  split
  · exact yields_skip.andThen fun _ => yields_pure (.number _)
  · exact yields_skip.andThen fun _ => yields_pure (.string _)
  · exact yields_skip.andThen fun _ => yields_pure (.name (ht? _ rfl))
  · exact yields_skip.andThen fun _ => yields_pure (.bool true)
  · exact yields_skip.andThen fun _ => yields_pure (.bool false)
  · exact yields_skip.andThen fun _ => yields_pure .null
  · exact (yields_function h).bind fun _ ⟨hname, hps, hbody⟩ => yields_pure (.function hname hps hbody)
  · exact yields_skip.andThen fun _ => h.expression.bind fun e he =>
      (yields_expectMark _).andThen fun _ => yields_pure (.nested he)
  · exact yields_skip.andThen fun _ => (h.expression.listUpTo _).bind fun es hes => yields_pure (.array hes)
  · exact yields_skip.andThen fun _ => ((yields_entry h).listUpTo _).bind fun es hes => yields_pure (.object hes)
  · exact yields_fail _

theorem yields_applied (h : inner.Gives T f) (budget : Nat) {e : Expr} (he : Postfixed T f e) :
    Yields T (applied inner budget e) (Postfixed T f) := by
  induction budget generalizing e with
  | zero => exact yields_pure he
  | succ budget ih =>
    refine yields_peek.bind fun t? _ => ?_
    split
    · exact yields_skip.andThen fun _ => yields_propertyName.bind fun x hx => ih (.member he hx)
    · exact yields_skip.andThen fun _ => h.expression.bind fun i hi =>
        (yields_expectMark _).andThen fun _ => ih (.index he hi)
    · exact yields_skip.andThen fun _ => (h.expression.listUpTo _).bind fun args hargs => ih (.call he hargs)
    · exact yields_pure he

theorem yields_postfixed (h : inner.Gives T f) : Yields T (postfixed inner) (Postfixed T f) := by
  refine (yields_primary h).bind fun e he => (yields_sees _).andThen fun more => ?_
  cases more with
  | true => exact yields_budget.andThen fun budget => yields_applied h budget (.primary he)
  | false => exact yields_pure (.primary he)

theorem yields_operand (h : inner.Gives T f) : Yields T (operand inner) (OperandForm T f) := by
  refine yields_peek.bind fun t? _ => ?_
  split
  · exact yields_skip.andThen fun _ => h.operand.bind fun e he => yields_pure (.unary he)
  · exact (yields_postfixed h).mono fun e he => .postfixed he

theorem yields_chainAfter {p : Parser Expr} {n : Nat} (hp : Yields T p (Chained T f n)) (tightness budget : Nat)
    {left : Expr} (hleft : Chained T f (n + 1) left) :
    Yields T (chainAfter tightness p budget left) (Chained T f (n + 1)) := by
  induction budget generalizing left with
  | zero => exact yields_pure hleft
  | succ budget ih =>
    refine yields_peek.bind fun t? _ => ?_
    split
    · rename_i op _
      exact yields_skip.andThen fun _ => hp.bind fun right hright => ih (.apply op hleft hright)
    · exact yields_pure hleft

theorem yields_chain (h : inner.Gives T f) (tightnesses : List Nat) :
    Yields T (chain (operand inner) tightnesses) (Chained T f tightnesses.length) := by
  induction tightnesses with
  | nil => exact (yields_operand h).mono fun e he => .operand he
  | cons t ts ih =>
    refine ih.bind fun left hleft => yields_peek.bind fun t? _ => ?_
    split
    · exact yields_budget.andThen fun budget => yields_chainAfter ih t budget (.tighter hleft)
    · exact yields_pure (.tighter hleft)

theorem yields_conditional (h : inner.Gives T f) : Yields T (conditional inner) (ConditionalForm T f) := by
  refine (yields_chain h [0, 1, 2, 3, 4, 5]).bind fun test ht => (yields_eat _).andThen fun choice => ?_
  cases choice with
  | true =>
    exact h.expression.bind fun a ha => (yields_expectMark _).andThen fun _ =>
      h.expression.bind fun b hb => yields_pure (.choice ht ha hb)
  | false => exact yields_pure (.operators ht)

theorem yields_arrow (h : inner.Gives T f) : Yields T (arrow inner) (ExpressionForm T f) := by
  have hbody : ∀ ps : List String, (∀ x ∈ ps, T (.identifier x)) →
      Yields T (do
        expectMark .arrow
        if ← sees (Token.isMark .leftBrace) then return .function none ps (← block inner)
        return .arrow ps (← inner.expression)) (ExpressionForm T f) := by
    intro ps hps
    refine (yields_expectMark _).andThen fun _ => (yields_sees _).andThen fun isBlock => ?_
    cases isBlock with
    | true => exact (yields_block h).bind fun body hbody => yields_pure (.block hps hbody)
    | false => exact h.expression.bind fun e he => yields_pure (.arrow hps he)
  refine (yields_sees _).andThen fun many => ?_
  cases many with
  | true => exact yields_params.bind fun ps hps => hbody ps hps
  | false =>
    refine yields_identifier.bind fun x hx => hbody [x] fun y hy => ?_
    obtain rfl := List.mem_singleton.1 hy
    exact hx

theorem yields_assignment (h : inner.Gives T f) : Yields T (assignment inner) (ExpressionForm T f) := by
  refine yields_get.andThen fun ts => ?_
  split
  · exact yields_arrow h
  · refine (yields_conditional h).bind fun e he => (yields_sees _).andThen fun assigns => ?_
    cases assigns with
    | true =>
      rw [if_pos rfl]
      split
      · rename_i target htarget
        obtain rfl := Expr.eq_expr_of_target? htarget
        exact yields_skip.andThen fun _ => h.expression.bind fun e' he' => yields_pure (.assign he he')
      · exact yields_fail _
    | false => exact yields_pure (.conditional he)

/-! ### Statements -/

theorem yields_binding (h : inner.Gives T f) : Yields T (binding inner) fun (x, init) =>
    T (.identifier x) ∧ ∀ e ∈ init, f.expression e := by
  refine yields_identifier.bind fun x hx => (yields_eat _).andThen fun hasValue => ?_
  cases hasValue with
  | true =>
    refine h.expression.bind fun e he => yields_pure ⟨hx, fun e' he' => ?_⟩
    obtain rfl := Option.some.inj he'
    exact he
  | false => exact yields_pure ⟨hx, nofun⟩

theorem yields_declaration? (h : inner.Gives T f) :
    Yields T (declaration? inner) fun d? => ∀ d ∈ d?, DeclarationForm T f d := by
  have hsome : ∀ {d : Declaration}, DeclarationForm T f d → ∀ d' ∈ some d, DeclarationForm T f d' :=
    fun hd d' hd' => Option.some.inj hd' ▸ hd
  refine yields_peek.bind fun t? _ => ?_
  split
  · refine yields_skip.andThen fun _ => (yields_binding h).bind fun b hb => ?_
    obtain ⟨x, _ | e⟩ := b
    · exact yields_fail _
    · exact yields_semicolon.andThen fun _ => yields_pure (hsome (.constant hb.1 (hb.2 e rfl)))
  · exact yields_skip.andThen fun _ => (yields_binding h).bind fun _ hb =>
      yields_semicolon.andThen fun _ => yields_pure (hsome (.variable hb.1 hb.2))
  · exact yields_skip.andThen fun _ => (yields_binding h).bind fun _ hb =>
      yields_semicolon.andThen fun _ => yields_pure (hsome (.variable hb.1 hb.2))
  · exact (yields_namedFunction h).bind fun _ ⟨hx, hps, hbody⟩ => yields_pure (hsome (.function hx hps hbody))
  · exact yields_pure nofun

theorem yields_branch (h : inner.Gives T f) : Yields T (branch inner) fun ss => ∀ s ∈ ss, f.statement s := by
  refine (yields_sees _).andThen fun isBlock => ?_
  cases isBlock with
  | true => exact yields_block h
  | false => exact h.statement.bind fun s hs => yields_pure fun s' hs' => List.mem_singleton.1 hs' ▸ hs

theorem yields_statement (h : inner.Gives T f) : Yields T (statement inner) (StatementForm T f) := by
  refine (yields_declaration? h).bind fun d? hd => ?_
  cases d? with
  | some d => exact yields_pure (.declare (hd d rfl))
  | none =>
    refine yields_peek.bind fun t? _ => ?_
    split
    · exact yields_fail _
    · exact yields_fail _
    · refine yields_skip.andThen fun _ => (yields_expectMark _).andThen fun _ => h.expression.bind fun e he =>
        (yields_expectMark _).andThen fun _ => (yields_branch h).bind fun consequent hconsequent =>
          (yields_eat _).andThen fun hasElse => ?_
      cases hasElse with
      | true =>
        refine (yields_branch h).bind fun alternate halternate =>
          yields_pure (.branch he hconsequent fun ss hss => ?_)
        exact Option.some.inj hss ▸ halternate
      | false => exact yields_pure (.branch he hconsequent nofun)
    · refine yields_skip.andThen fun _ => yields_peek.bind fun t? _ => ?_
      split
      · exact yields_semicolon.andThen fun _ => yields_pure (.leave nofun)
      · refine h.expression.bind fun e he => yields_semicolon.andThen fun _ => yields_pure (.leave fun e' he' => ?_)
        exact Option.some.inj he' ▸ he
    · exact yields_skip.andThen fun _ => h.expression.bind fun e he =>
        yields_semicolon.andThen fun _ => yields_pure (.throw he)
    · exact h.expression.bind fun e he => yields_semicolon.andThen fun _ => yields_pure (.eval he)

/-- **The productions of each level give its forms.** -/
theorem yields_atDepth (T : Token → Prop) (n : Nat) : (atDepth n).Gives T (forms T n) := by
  induction n with
  | zero => exact ⟨yields_fail _, yields_fail _, yields_fail _⟩
  | succ n ih => exact ⟨yields_assignment ih, yields_operand ih, yields_statement ih⟩

/-! ### Modules -/

theorem yields_moduleName : Yields T moduleName (ListedName T) := by
  refine (yields_eat _).andThen fun isDefault => ?_
  cases isDefault with
  | true => exact yields_pure (.inl rfl)
  | false => exact yields_identifier.mono fun x hx => .inr hx

theorem yields_importName : Yields T importName fun n => T (.identifier n.localName) := by
  refine yields_moduleName.bind fun imported himported => (yields_eat _).andThen fun renamed => ?_
  cases renamed with
  | true => exact yields_identifier.bind fun x hx => yields_pure hx
  | false =>
    rw [if_neg Bool.false_ne_true]
    split
    · exact (yields_fail (Q := fun _ => False) _).bind fun _ hno => hno.elim
    · exact yields_pure (himported.resolve_left ‹_›)

theorem yields_exportName :
    Yields T exportName fun n => ListedName T n.localName ∧ ListedName T n.exported := by
  refine yields_moduleName.bind fun localName hlocal => (yields_eat _).andThen fun renamed => ?_
  cases renamed with
  | true => exact yields_moduleName.bind fun exported hexported => yields_pure ⟨hlocal, hexported⟩
  | false => exact yields_pure ⟨hlocal, hlocal⟩

theorem yields_importSource {defaultName : Option String} {names : ImportNames}
    (h : ∀ source, ImportForm T ⟨source, defaultName, names⟩) :
    Yields T (importSource defaultName names) (ImportForm T) :=
  (yields_expectWord _).andThen fun _ => yields_string.bind fun source _ =>
    yields_semicolon.andThen fun _ => yields_pure (h source)

theorem yields_importNames {defaultName : Option String} (h : ∀ x ∈ defaultName, T (.identifier x)) :
    Yields T (importNames defaultName) (ImportForm T) := by
  refine (yields_eat _).andThen fun isStar => ?_
  cases isStar with
  | true =>
    refine (yields_expectWord _).andThen fun _ => yields_identifier.bind fun x hx =>
      yields_importSource fun source => ⟨h, fun y hy => ?_, nofun⟩
    obtain rfl := ImportNames.everything.inj hy
    exact hx
  | false =>
    refine (yields_eat _).andThen fun isBrace => ?_
    cases isBrace with
    | true =>
      refine (yields_importName.listUpTo _).bind fun names hnames =>
        yields_importSource fun source => ⟨h, nofun, fun ns hns => ?_⟩
      obtain rfl := ImportNames.some.inj hns
      exact hnames
    | false => exact yields_fail _

theorem yields_importing : Yields T importing (ImportForm T) := by
  have hnone : ∀ ns, ImportNames.some [] = .some ns → ∀ n ∈ ns, T (.identifier n.localName) := by
    rintro _ ⟨⟩ n hn
    exact absurd hn List.not_mem_nil
  refine yields_peek.bind fun t? ht? => ?_
  split
  · exact yields_skip.andThen fun _ => yields_semicolon.andThen fun _ => yields_pure ⟨nofun, nofun, hnone⟩
  · rename_i x
    have hx : ∀ y ∈ some x, T (.identifier y) := fun y hy => Option.some.inj hy ▸ ht? _ rfl
    refine yields_skip.andThen fun _ => (yields_eat _).andThen fun more => ?_
    cases more with
    | true => exact yields_importNames hx
    | false => exact yields_importSource fun source => ⟨hx, nofun, hnone⟩
  · exact yields_importNames nofun

theorem yields_exporting (h : inner.Gives T f) : Yields T (exporting inner) (ExportForm T f) := by
  refine (yields_declaration? h).bind fun d? hd => ?_
  cases d? with
  | some d => exact yields_pure (.declaration (hd d rfl))
  | none =>
    refine yields_peek.bind fun t? _ => ?_
    split
    · refine yields_skip.andThen fun _ => (yields_sees _).andThen fun isFunction => ?_
      cases isFunction with
      | true =>
        refine (yields_function h).bind fun r ⟨hname, hps, hbody⟩ => ?_
        obtain ⟨_ | x, ps, body⟩ := r
        · exact yields_pure (.defaultNameless hps hbody)
        · exact yields_pure (.defaultFunction (hname x rfl) hps hbody)
      | false => exact h.expression.bind fun e he => yields_semicolon.andThen fun _ => yields_pure (.defaultValue he)
    · exact yields_skip.andThen fun _ => (yields_expectWord _).andThen fun _ => yields_string.bind fun source _ =>
        yields_semicolon.andThen fun _ => yields_pure (.allFrom source)
    · refine yields_skip.andThen fun _ => (yields_exportName.listUpTo _).bind fun names hnames =>
        (yields_eat _).andThen fun isFrom => ?_
      cases isFrom with
      | true =>
        exact yields_string.bind fun source _ => yields_semicolon.andThen fun _ =>
          yields_pure (.namesFrom hnames source)
      | false => exact yields_semicolon.andThen fun _ => yields_pure (.names hnames)
    · exact yields_fail _

theorem yields_item (h : inner.Gives T f) : Yields T (item inner) (ItemForm T f) := by
  refine (yields_eat _).andThen fun isImport => ?_
  cases isImport with
  | true => exact yields_importing.bind fun i hi => yields_pure (.importing hi)
  | false =>
    refine (yields_eat _).andThen fun isExport => ?_
    cases isExport with
    | true => exact (yields_exporting h).bind fun e he => yields_pure (.exporting he)
    | false => exact (yields_statement h).bind fun s hs => yields_pure (.statement hs)

theorem yields_items (h : inner.Gives T f) (budget : Nat) :
    Yields T (items inner budget) fun is => ∀ i ∈ is, ItemForm T f i := by
  induction budget with
  | zero => exact yields_pure fun i hi => absurd hi List.not_mem_nil
  | succ budget ih =>
    refine yields_peek.bind fun t? _ => ?_
    split
    · exact yields_pure fun i hi => absurd hi List.not_mem_nil
    · refine (yields_item h).bind fun i hi => ih.bind fun is his => yields_pure fun i' hi' => ?_
      rcases List.mem_cons.1 hi' with rfl | hi'
      · exact hi
      · exact his i' hi'

end Parser

/-- **What is read from a source has the forms of a module** over the tokens of the source. -/
theorem itemForm_of_parse {source : String} {p : Program} (h : parse source = .ok p) :
    ∃ ts, tokenize source = .ok ts ∧
      ∀ i ∈ p.body, ItemForm (· ∈ ts.tokens.map (·.token))
        (forms (· ∈ ts.tokens.map (·.token)) Parser.maxNesting) i := by
  unfold parse at h
  split at h
  · cases h
  · rename_i ts hts
    refine ⟨ts, hts, ?_⟩
    split at h
    · rename_i p' rest hrun
      obtain rfl := Except.ok.inj h
      have hprogram : Parser.Yields (· ∈ ts.tokens.map (·.token)) Parser.program fun p =>
          ∀ i ∈ p.body, ItemForm (· ∈ ts.tokens.map (·.token)) (forms _ Parser.maxNesting) i :=
        Parser.yields_budget.andThen fun budget =>
          (Parser.yields_items (Parser.yields_atDepth _ _) budget).bind fun is his => Parser.yields_pure his
      exact (hprogram ts.tokens _ rest (fun t ht => List.mem_map_of_mem ht) hrun).1
    · cases h

end Syntax
end ScriptImport
