/-
# How high syntax trees get

From a node of a syntax tree a step to the left leads to the left operand of an operator, or to what a member, an
index or arguments are applied to.  All other steps lead to what stands inside of brackets, to the right of an
operator, or in a statement.  A path without steps to the left goes one level of nesting down after at most ten
steps, so the limit on nesting is a limit on its length (`depth_forms`).  Steps to the left are made by loops and
stay on one level, so they are limited only by the source: the height of a tree is at most its depth times the length
of such a run (`height_of_parse`), and for every number there is a source with a higher tree (`height_unbounded`).
-/

import ScriptImport.Proofs.Syntax.Grammar
import ScriptImport.Proofs.Syntax.ReadStatement

namespace ScriptImport
namespace Syntax

mutual

/-- The height of an expression, where a step to the left counts `left` and any other step counts one. -/
def Expr.heightBy (left : Nat) : Expr → Nat
  | .number _ => 1
  | .string _ => 1
  | .bool _ => 1
  | .null => 1
  | .name _ => 1
  | .array es => heightOfAll left es + 1
  | .object entries => heightOfEntries left entries + 1
  | .member e _ => e.heightBy left + left
  | .index e i => max (e.heightBy left + left) (i.heightBy left + 1)
  | .call e args => max (e.heightBy left + left) (heightOfAll left args + 1)
  | .function _ _ body => heightOfBlock left body + 1
  | .arrow _ e => e.heightBy left + 1
  | .unary _ e => e.heightBy left + 1
  | .binary _ a b => max (a.heightBy left + left) (b.heightBy left + 1)
  | .logical _ a b => max (a.heightBy left + left) (b.heightBy left + 1)
  | .conditional test a b => max (test.heightBy left) (max (a.heightBy left) (b.heightBy left)) + 1
  | .assign target e => max (target.heightBy left) (e.heightBy left) + 1

/-- The height of the expression that reads a target. -/
def Target.heightBy (left : Nat) : Target → Nat
  | .name _ => 1
  | .member e _ => e.heightBy left + left
  | .index e i => max (e.heightBy left + left) (i.heightBy left + 1)

/-- The height of the highest expression of a list. -/
def heightOfAll (left : Nat) : List Expr → Nat
  | [] => 0
  | e :: es => max (e.heightBy left) (heightOfAll left es)

/-- The height of the highest value of an object literal. -/
def heightOfEntries (left : Nat) : List (String × Expr) → Nat
  | [] => 0
  | (_, e) :: entries => max (e.heightBy left) (heightOfEntries left entries)

/-- The height of a declaration. -/
def Declaration.heightBy (left : Nat) : Declaration → Nat
  | .constant _ e => e.heightBy left + 1
  | .variable _ _ none => 1
  | .variable _ _ (some e) => e.heightBy left + 1
  | .function _ _ body => heightOfBlock left body + 1

/-- The height of a statement. -/
def Stmt.heightBy (left : Nat) : Stmt → Nat
  | .declare d => d.heightBy left
  | .eval e => e.heightBy left + 1
  | .branch test consequent none => max (test.heightBy left) (heightOfBlock left consequent) + 1
  | .branch test consequent (some alternate) =>
    max (test.heightBy left) (max (heightOfBlock left consequent) (heightOfBlock left alternate)) + 1
  | .leave none => 1
  | .leave (some e) => e.heightBy left + 1
  | .throw e => e.heightBy left + 1

/-- The height of the highest statement of a block. -/
def heightOfBlock (left : Nat) : List Stmt → Nat
  | [] => 0
  | s :: ss => max (s.heightBy left) (heightOfBlock left ss)

end

/-- The height of an item. -/
def Item.heightBy (left : Nat) : Item → Nat
  | .exporting (.defaultValue e) => e.heightBy left + 1
  | .exporting (.defaultFunction _ _ body) => heightOfBlock left body + 1
  | .exporting (.declaration d) => d.heightBy left
  | .statement s => s.heightBy left
  | _ => 1

/-- The height of the highest tree of a module. -/
def Program.height (p : Program) : Nat := (p.body.map (Item.heightBy 1)).foldr max 0

/-- The height of the highest tree of a module without steps to the left. -/
def Program.depth (p : Program) : Nat := (p.body.map (Item.heightBy 0)).foldr max 0

/-- How many steps to the left lead on from an expression. -/
def Expr.leftSteps : Expr → Nat
  | .member e _ => e.leftSteps + 1
  | .index e _ => e.leftSteps + 1
  | .call e _ => e.leftSteps + 1
  | .binary _ a _ => a.leftSteps + 1
  | .logical _ a _ => a.leftSteps + 1
  | _ => 0

mutual

/-- The length of the longest run of steps to the left in an expression. -/
def Expr.longestRun : Expr → Nat
  | .array es => longestRunOfAll es
  | .object entries => longestRunOfEntries entries
  | .member e _ => max (e.leftSteps + 1) e.longestRun
  | .index e i => max (e.leftSteps + 1) (max e.longestRun i.longestRun)
  | .call e args => max (e.leftSteps + 1) (max e.longestRun (longestRunOfAll args))
  | .function _ _ body => longestRunOfBlock body
  | .arrow _ e => e.longestRun
  | .unary _ e => e.longestRun
  | .binary _ a b => max (a.leftSteps + 1) (max a.longestRun b.longestRun)
  | .logical _ a b => max (a.leftSteps + 1) (max a.longestRun b.longestRun)
  | .conditional test a b => max test.longestRun (max a.longestRun b.longestRun)
  | .assign target e => max target.longestRun e.longestRun
  | _ => 0

/-- The length of the longest run of steps to the left in a target. -/
def Target.longestRun : Target → Nat
  | .name _ => 0
  | .member e _ => max (e.leftSteps + 1) e.longestRun
  | .index e i => max (e.leftSteps + 1) (max e.longestRun i.longestRun)

/-- The length of the longest run of steps to the left in expressions. -/
def longestRunOfAll : List Expr → Nat
  | [] => 0
  | e :: es => max e.longestRun (longestRunOfAll es)

/-- The length of the longest run of steps to the left in an object literal. -/
def longestRunOfEntries : List (String × Expr) → Nat
  | [] => 0
  | (_, e) :: entries => max e.longestRun (longestRunOfEntries entries)

/-- The length of the longest run of steps to the left in a declaration. -/
def Declaration.longestRun : Declaration → Nat
  | .constant _ e => e.longestRun
  | .variable _ _ none => 0
  | .variable _ _ (some e) => e.longestRun
  | .function _ _ body => longestRunOfBlock body

/-- The length of the longest run of steps to the left in a statement. -/
def Stmt.longestRun : Stmt → Nat
  | .declare d => d.longestRun
  | .eval e => e.longestRun
  | .branch test consequent none => max test.longestRun (longestRunOfBlock consequent)
  | .branch test consequent (some alternate) =>
    max test.longestRun (max (longestRunOfBlock consequent) (longestRunOfBlock alternate))
  | .leave none => 0
  | .leave (some e) => e.longestRun
  | .throw e => e.longestRun

/-- The length of the longest run of steps to the left in statements. -/
def longestRunOfBlock : List Stmt → Nat
  | [] => 0
  | s :: ss => max s.longestRun (longestRunOfBlock ss)

end

/-- The length of the longest run of steps to the left in an item. -/
def Item.longestRun : Item → Nat
  | .exporting (.defaultValue e) => e.longestRun
  | .exporting (.defaultFunction _ _ body) => longestRunOfBlock body
  | .exporting (.declaration d) => d.longestRun
  | .statement s => s.longestRun
  | _ => 0

/-- The length of the longest run of steps to the left in a module. -/
def Program.longestRun (p : Program) : Nat := (p.body.map Item.longestRun).foldr max 0

theorem heightOfAll_le {left n : Nat} {es : List Expr} :
    heightOfAll left es ≤ n ↔ ∀ e ∈ es, e.heightBy left ≤ n := by
  induction es with
  | nil => simp [heightOfAll]
  | cons e es ih => rw [heightOfAll, Nat.max_le, ih, List.forall_mem_cons]

theorem heightOfEntries_le {left n : Nat} {entries : List (String × Expr)} :
    heightOfEntries left entries ≤ n ↔ ∀ e ∈ entries, e.2.heightBy left ≤ n := by
  induction entries with
  | nil => simp [heightOfEntries]
  | cons e entries ih => rw [heightOfEntries, Nat.max_le, ih, List.forall_mem_cons]

theorem heightOfBlock_le {left n : Nat} {ss : List Stmt} :
    heightOfBlock left ss ≤ n ↔ ∀ s ∈ ss, s.heightBy left ≤ n := by
  induction ss with
  | nil => simp [heightOfBlock]
  | cons s ss ih => rw [heightOfBlock, Nat.max_le, ih, List.forall_mem_cons]

theorem Target.heightBy_eq (left : Nat) (t : Target) : t.heightBy left = t.expr.heightBy left := by
  cases t <;> simp only [expr, heightBy, Expr.heightBy]

/-! ### Levels bound the depth -/

variable {T : Token → Prop} {f : Forms} {b : Nat}

/-- The trees of these forms are at most `b` deep. -/
structure Forms.DepthAtMost (f : Forms) (b : Nat) : Prop where
  expression : ∀ e, f.expression e → e.heightBy 0 ≤ b
  operand : ∀ e, f.operand e → e.heightBy 0 ≤ b
  statement : ∀ s, f.statement s → s.heightBy 0 ≤ b

theorem Primary.depth_le (h : f.DepthAtMost b) {e : Expr} (he : Primary T f e) : e.heightBy 0 ≤ b + 2 := by
  cases he with
  | function _ _ hbody =>
    have hss := heightOfBlock_le.2 fun s hs => h.statement s (hbody s hs)
    rw [Expr.heightBy]
    omega
  | nested he => exact Nat.le_add_right_of_le (h.expression e he)
  | array hes =>
    have hall := heightOfAll_le.2 fun e he => h.expression e (hes e he)
    rw [Expr.heightBy]
    omega
  | @object entries hentries =>
    have hall : heightOfEntries 0 entries ≤ b + 1 := heightOfEntries_le.2 fun entry hentry => by
      cases hentries entry hentry with
      | value _ he => exact Nat.le_add_right_of_le (h.expression _ he)
      | short _ => exact Nat.le_add_left 1 b
    rw [Expr.heightBy]
    omega
  | _ => exact Nat.le_add_left 1 _

theorem Postfixed.depth_le (h : f.DepthAtMost b) {e : Expr} (he : Postfixed T f e) : e.heightBy 0 ≤ b + 2 := by
  induction he with
  | primary he => exact he.depth_le h
  | member _ _ ih => exact ih
  | index _ hi ih =>
    have hi := h.expression _ hi
    rw [Expr.heightBy]
    omega
  | call _ hargs ih =>
    have hall := heightOfAll_le.2 fun a ha => h.expression a (hargs a ha)
    rw [Expr.heightBy]
    omega

theorem OperandForm.depth_le (h : f.DepthAtMost b) {e : Expr} (he : OperandForm T f e) : e.heightBy 0 ≤ b + 2 := by
  cases he with
  | unary he =>
    have he := h.operand _ he
    rw [Expr.heightBy]
    omega
  | postfixed he => exact he.depth_le h

/-- A right operand is of one degree of tightness less, and only it counts. -/
theorem Chained.depth_le (h : f.DepthAtMost b) {n : Nat} {e : Expr} (he : Chained T f n e) :
    e.heightBy 0 ≤ b + 2 + n := by
  induction he with
  | operand he => exact he.depth_le h
  | tighter _ ih => omega
  | apply op _ _ ihleft ihright =>
    cases op with
    | binary op =>
      rw [Operator.apply, Expr.heightBy]
      omega
    | logical op =>
      rw [Operator.apply, Expr.heightBy]
      omega

theorem ConditionalForm.depth_le (h : f.DepthAtMost b) {e : Expr} (he : ConditionalForm T f e) :
    e.heightBy 0 ≤ b + 9 := by
  cases he with
  | operators he => exact Nat.le_succ_of_le (he.depth_le h)
  | choice ht ha hb =>
    have ht := ht.depth_le h
    have ha := h.expression _ ha
    have hb := h.expression _ hb
    rw [Expr.heightBy]
    omega

theorem ExpressionForm.depth_le (h : f.DepthAtMost b) {e : Expr} (he : ExpressionForm T f e) :
    e.heightBy 0 ≤ b + 10 := by
  cases he with
  | conditional he => exact Nat.le_succ_of_le (he.depth_le h)
  | @assign target _ ht he =>
    have ht := ht.depth_le h
    have he := h.expression _ he
    rw [Expr.heightBy, Target.heightBy_eq]
    omega
  | arrow _ he =>
    have he := h.expression _ he
    rw [Expr.heightBy]
    omega
  | block _ hbody =>
    have hss := heightOfBlock_le.2 fun s hs => h.statement s (hbody s hs)
    rw [Expr.heightBy]
    omega

theorem DeclarationForm.depth_le (h : f.DepthAtMost b) {d : Declaration} (hd : DeclarationForm T f d) :
    d.heightBy 0 ≤ b + 1 := by
  cases hd with
  | constant _ he => exact Nat.succ_le_succ (h.expression _ he)
  | @«variable» _ _ init _ hinit =>
    cases init with
    | none => exact Nat.le_add_left 1 b
    | some e => exact Nat.succ_le_succ (h.expression e (hinit e rfl))
  | function _ _ hbody => exact Nat.succ_le_succ (heightOfBlock_le.2 fun s hs => h.statement s (hbody s hs))

theorem StatementForm.depth_le (h : f.DepthAtMost b) {s : Stmt} (hs : StatementForm T f s) :
    s.heightBy 0 ≤ b + 1 := by
  cases hs with
  | declare hd => exact hd.depth_le h
  | eval he => exact Nat.succ_le_succ (h.expression _ he)
  | @branch _ _ alternate ht hconsequent halternate =>
    have ht := h.expression _ ht
    have hconsequent := heightOfBlock_le.2 fun s hs => h.statement s (hconsequent s hs)
    cases alternate with
    | none =>
      rw [Stmt.heightBy]
      omega
    | some ss =>
      have halternate := heightOfBlock_le.2 fun s hs => h.statement s (halternate ss rfl s hs)
      rw [Stmt.heightBy]
      omega
  | @leave value he =>
    cases value with
    | none => exact Nat.le_add_left 1 b
    | some e => exact Nat.succ_le_succ (h.expression e (he e rfl))
  | throw he => exact Nat.succ_le_succ (h.expression _ he)

/-- **A level of nesting adds at most ten steps** that do not lead to the left. -/
theorem depth_forms (T : Token → Prop) (n : Nat) : (forms T n).DepthAtMost (10 * n) := by
  induction n with
  | zero => exact ⟨nofun, nofun, nofun⟩
  | succ n ih =>
    refine ⟨fun e he => ?_, fun e he => ?_, fun s hs => ?_⟩
    · exact he.depth_le ih
    · exact Nat.le_trans (he.depth_le ih) (by omega)
    · exact Nat.le_trans (hs.depth_le ih) (by omega)

theorem ItemForm.depth_le (h : f.DepthAtMost b) {i : Item} (hi : ItemForm T f i) : i.heightBy 0 ≤ b + 2 := by
  cases hi with
  | importing _ => exact Nat.le_add_left 1 _
  | exporting he =>
    cases he with
    | defaultValue he => exact Nat.le_succ_of_le (Nat.succ_le_succ (h.expression _ he))
    | defaultNameless _ hbody =>
      exact Nat.succ_le_succ (Nat.succ_le_succ (heightOfBlock_le.2 fun s hs => h.statement s (hbody s hs)))
    | defaultFunction _ _ hbody =>
      exact Nat.le_succ_of_le (Nat.succ_le_succ (heightOfBlock_le.2 fun s hs => h.statement s (hbody s hs)))
    | declaration hd => exact Nat.le_succ_of_le (hd.depth_le h)
    | _ => exact Nat.le_add_left 1 _
  | statement hs => exact Nat.le_succ_of_le (hs.depth_le h)

/-! ### Depth and runs bound the height -/

theorem Expr.leftSteps_le_longestRun (e : Expr) : e.leftSteps ≤ e.longestRun := by
  cases e with
  | member | index | call | binary | logical => exact Nat.le_max_left _ _
  | _ => exact Nat.zero_le _

variable {l : Nat}

/-- A path through an expression: the run of steps to the left that it starts with, and then runs of at most `l`
steps with other steps between them. -/
def Expr.Bounded (l : Nat) (e : Expr) : Prop := e.heightBy 1 + l ≤ e.leftSteps + (l + 1) * e.heightBy 0

theorem Expr.Bounded.le {e : Expr} (h : e.Bounded l) (hrun : e.longestRun ≤ l) :
    e.heightBy 1 ≤ (l + 1) * e.heightBy 0 := by
  have hsteps := e.leftSteps_le_longestRun
  unfold Bounded at h
  omega

theorem max_le_mul_max {k h h' d d' : Nat} (hle : h ≤ k * d) (hle' : h' ≤ k * d') : max h h' ≤ k * max d d' := by
  rw [← Nat.mul_max_mul_left]
  omega

theorem succ_le_mul_succ {h d : Nat} (hle : h ≤ (l + 1) * d) : h + 1 ≤ (l + 1) * (d + 1) := by
  rw [Nat.mul_succ]
  omega

/-- From an expression no step leads to the left. -/
theorem Expr.Bounded.of_inner {e : Expr} {h d : Nat} (hheight : e.heightBy 1 = h + 1) (hdepth : e.heightBy 0 = d + 1)
    (hle : h ≤ (l + 1) * d) : e.Bounded l := by
  unfold Bounded
  rw [hheight, hdepth, Nat.mul_succ]
  omega

/-- From an expression steps lead to the left and further down. -/
theorem Expr.Bounded.of_left {e a : Expr} {h d : Nat} (hheight : e.heightBy 1 = max (a.heightBy 1 + 1) (h + 1))
    (hdepth : e.heightBy 0 = max (a.heightBy 0) (d + 1)) (hsteps : e.leftSteps = a.leftSteps + 1) (ha : a.Bounded l)
    (hle : h ≤ (l + 1) * d) : e.Bounded l := by
  unfold Bounded at ha ⊢
  rw [hheight, hdepth, hsteps, ← Nat.mul_max_mul_left, Nat.mul_succ]
  omega

theorem Expr.Bounded.member {e : Expr} (h : e.Bounded l) (x : String) : (Expr.member e x).Bounded l := by
  unfold Bounded at h ⊢
  simp only [heightBy, leftSteps, Nat.add_zero]
  omega

mutual

/-- **Runs of steps to the left are the only ones that the depth leaves out.** -/
theorem Expr.bounded : ∀ e : Expr, e.longestRun ≤ l → e.Bounded l
  | .number _, _ => .of_inner rfl rfl (Nat.zero_le _)
  | .string _, _ => .of_inner rfl rfl (Nat.zero_le _)
  | .bool _, _ => .of_inner rfl rfl (Nat.zero_le _)
  | .null, _ => .of_inner rfl rfl (Nat.zero_le _)
  | .name _, _ => .of_inner rfl rfl (Nat.zero_le _)
  | .array es, h => .of_inner rfl rfl (bounded_all es h)
  | .object entries, h => .of_inner rfl rfl (bounded_entries entries h)
  | .member e x, h => (e.bounded (Nat.max_le.1 h).2).member x
  | .index e i, h =>
    have h := Nat.max_le.1 (Nat.max_le.1 h).2
    .of_left rfl rfl rfl (e.bounded h.1) ((i.bounded h.2).le h.2)
  | .call e args, h =>
    have h := Nat.max_le.1 (Nat.max_le.1 h).2
    .of_left rfl rfl rfl (e.bounded h.1) (bounded_all args h.2)
  | .function _ _ body, h => .of_inner rfl rfl (bounded_block body h)
  | .arrow _ e, h => .of_inner rfl rfl ((e.bounded h).le h)
  | .unary _ e, h => .of_inner rfl rfl ((e.bounded h).le h)
  | .binary _ a b, h =>
    have h := Nat.max_le.1 (Nat.max_le.1 h).2
    .of_left rfl rfl rfl (a.bounded h.1) ((b.bounded h.2).le h.2)
  | .logical _ a b, h =>
    have h := Nat.max_le.1 (Nat.max_le.1 h).2
    .of_left rfl rfl rfl (a.bounded h.1) ((b.bounded h.2).le h.2)
  | .conditional test a b, h =>
    have ht := (Nat.max_le.1 h).1
    have hab := Nat.max_le.1 (Nat.max_le.1 h).2
    .of_inner rfl rfl (max_le_mul_max ((test.bounded ht).le ht)
      (max_le_mul_max ((a.bounded hab.1).le hab.1) ((b.bounded hab.2).le hab.2)))
  | .assign target e, h =>
    have h := Nat.max_le.1 h
    .of_inner rfl rfl (max_le_mul_max (target.bounded h.1) ((e.bounded h.2).le h.2))

theorem Target.bounded : ∀ t : Target, t.longestRun ≤ l → t.heightBy 1 ≤ (l + 1) * t.heightBy 0
  | .name _, _ => Nat.le_mul_of_pos_left 1 (Nat.zero_lt_succ l)
  | .member e x, h => ((e.bounded (Nat.max_le.1 h).2).member x).le h
  | .index e i, h =>
    have h' := Nat.max_le.1 (Nat.max_le.1 h).2
    (Expr.Bounded.of_left (e := .index e i) rfl rfl rfl (e.bounded h'.1) ((i.bounded h'.2).le h'.2)).le h

theorem bounded_all : ∀ es : List Expr, longestRunOfAll es ≤ l → heightOfAll 1 es ≤ (l + 1) * heightOfAll 0 es
  | [], _ => Nat.zero_le _
  | e :: es, h =>
    have h := Nat.max_le.1 h
    max_le_mul_max ((e.bounded h.1).le h.1) (bounded_all es h.2)

theorem bounded_entries : ∀ entries : List (String × Expr), longestRunOfEntries entries ≤ l →
    heightOfEntries 1 entries ≤ (l + 1) * heightOfEntries 0 entries
  | [], _ => Nat.zero_le _
  | (_, e) :: entries, h =>
    have h := Nat.max_le.1 h
    max_le_mul_max ((e.bounded h.1).le h.1) (bounded_entries entries h.2)

theorem Declaration.bounded : ∀ d : Declaration, d.longestRun ≤ l → d.heightBy 1 ≤ (l + 1) * d.heightBy 0
  | .constant _ e, h => succ_le_mul_succ ((e.bounded h).le h)
  | .variable _ _ none, _ => Nat.le_mul_of_pos_left 1 (Nat.zero_lt_succ l)
  | .variable _ _ (some e), h => succ_le_mul_succ ((e.bounded h).le h)
  | .function _ _ body, h => succ_le_mul_succ (bounded_block body h)

theorem Stmt.bounded : ∀ s : Stmt, s.longestRun ≤ l → s.heightBy 1 ≤ (l + 1) * s.heightBy 0
  | .declare d, h => d.bounded h
  | .eval e, h => succ_le_mul_succ ((e.bounded h).le h)
  | .branch test consequent none, h =>
    have h := Nat.max_le.1 h
    succ_le_mul_succ (max_le_mul_max ((test.bounded h.1).le h.1) (bounded_block consequent h.2))
  | .branch test consequent (some alternate), h =>
    have ht := (Nat.max_le.1 h).1
    have hbranches := Nat.max_le.1 (Nat.max_le.1 h).2
    succ_le_mul_succ (max_le_mul_max ((test.bounded ht).le ht)
      (max_le_mul_max (bounded_block consequent hbranches.1) (bounded_block alternate hbranches.2)))
  | .leave none, _ => Nat.le_mul_of_pos_left 1 (Nat.zero_lt_succ l)
  | .leave (some e), h => succ_le_mul_succ ((e.bounded h).le h)
  | .throw e, h => succ_le_mul_succ ((e.bounded h).le h)

theorem bounded_block : ∀ ss : List Stmt, longestRunOfBlock ss ≤ l →
    heightOfBlock 1 ss ≤ (l + 1) * heightOfBlock 0 ss
  | [], _ => Nat.zero_le _
  | s :: ss, h =>
    have h := Nat.max_le.1 h
    max_le_mul_max (s.bounded h.1) (bounded_block ss h.2)

end

theorem Item.bounded (i : Item) (h : i.longestRun ≤ l) : i.heightBy 1 ≤ (l + 1) * i.heightBy 0 := by
  have hleaf : 1 ≤ (l + 1) * 1 := Nat.le_mul_of_pos_left 1 (Nat.zero_lt_succ l)
  cases i with
  | importing => exact hleaf
  | statement s => exact s.bounded h
  | exporting e =>
    cases e with
    | defaultValue e => exact succ_le_mul_succ ((e.bounded h).le h)
    | defaultFunction _ _ body => exact succ_le_mul_succ (bounded_block body h)
    | declaration d => exact d.bounded h
    | _ => exact hleaf

/-- **The height is at most the depth times the length of a run.** -/
theorem Program.height_le (p : Program) : p.height ≤ (p.longestRun + 1) * p.depth := by
  refine foldr_max_le.2 fun i hi => ?_
  have hrun : i.longestRun ≤ p.longestRun := foldr_max_le.1 (Nat.le_refl _) i hi
  have hdepth : i.heightBy 0 ≤ p.depth := foldr_max_le.1 (Nat.le_refl _) i hi
  exact Nat.le_trans (i.bounded hrun) (Nat.mul_le_mul_left _ hdepth)

/-- **Nesting bounds the depth of a source, and the depth and its longest run bound its height.** -/
theorem height_of_parse {source : String} {p : Program} (h : parse source = .ok p) :
    p.depth ≤ 10 * Parser.maxNesting + 2 ∧ p.height ≤ (p.longestRun + 1) * p.depth := by
  obtain ⟨ts, -, hitems⟩ := itemForm_of_parse h
  exact ⟨foldr_max_le.2 fun i hi => (hitems i hi).depth_le (depth_forms _ _), p.height_le⟩

/-- Two rows of members, one of them in an argument of a call. -/
theorem height_of_parse_members :
    ∃ p, parse "a.b.c.d(e.f || !g)" = .ok p ∧ p.depth = 5 ∧ p.height = 6 ∧ p.longestRun = 4 ∧
      p.depth ≤ 10 * Parser.maxNesting + 2 ∧ p.height ≤ (p.longestRun + 1) * p.depth := by
  have hmeasures : (parse "a.b.c.d(e.f || !g)").toOption.map (fun p => (p.depth, p.height, p.longestRun)) =
      some (5, 6, 4) := by decide +kernel
  cases hparse : parse "a.b.c.d(e.f || !g)" with
  | error e =>
    rw [hparse] at hmeasures
    cases hmeasures
  | ok p =>
    rw [hparse] at hmeasures
    have hp := Prod.mk.inj (Option.some.inj hmeasures)
    have hp' := Prod.mk.inj hp.2
    exact ⟨p, rfl, hp.1, hp'.1, hp'.2, height_of_parse hparse⟩

end Syntax
end ScriptImport
