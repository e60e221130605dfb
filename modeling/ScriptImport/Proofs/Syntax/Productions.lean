/-
# Every production follows

One lemma for each production: over a level below that follows (`Below`), a head and a list read the same from every
place, and the head gets ahead.  Where a production is a loop, its lemma is by induction on the rounds that the list
gives it, and what each round reads is one token less for the next.

The levels follow by induction on how many are left (`below_level`).
-/

import ScriptImport.Proofs.Syntax.Follows

namespace ScriptImport
namespace Syntax

namespace Parser

variable {α : Type} {s : Setting} {k : Nat} {o : Option Token}

/-! ### Tokens and lists -/

theorem follows_demand (q : Token → Bool) (fault : Fault) :
    Follows s k o advances (do unless ← eat q do fail fault) (do unless ← eat q do fail fault) := by
  refine (follows_eat q).bind fun found _ => ?_
  cases found with
  | true => exact follows_pure rfl
  | false => exact follows_fail fault

theorem follows_expectMark (m : Mark) : Follows s k o advances (expectMark m) (expectMark m) := follows_demand _ _

theorem follows_expectKeyword (w : Keyword) : Follows s k o advances (expectKeyword w) (expectKeyword w) :=
  follows_demand _ _

theorem follows_expectWord (word : String) : Follows s k o advances (expectWord word) (expectWord word) :=
  follows_demand _ _

theorem follows_identifier : Follows s k o advances identifier identifier := by
  refine .peek ?_
  split
  · exact .skip rfl (follows_pure rfl)
  · exact follows_fail _

theorem follows_string : Follows s k o advances string string := by
  refine .peek ?_
  split
  · exact .skip rfl (follows_pure rfl)
  · exact follows_fail _

theorem follows_semicolon : Follows s k o stays semicolon semicolon :=
  (follows_eat _).andThen fun _ => follows_pure rfl

/-- **A loop over items ends:** it takes no more rounds than there are tokens, since each item gets ahead. -/
theorem follows_separated {w : Walk α} {p : Parser α} (close : Mark)
    (item : ∀ {k o}, Follows s k o advances w p) {m n : Nat} (rounds : Rounds k m n) :
    Follows s k o stays (separated w close m) (separated p close n) := by
  induction rounds generalizing o with
  | last =>
    -- The list tries for an item; the head looks for the mark before it does so.
    exact .atEnd <| .seesLeft <| item.round fun _ impossible => absurd impossible (Nat.lt_irrefl 0)
  | @round k m n _ ih =>
    refine follows_sees.andThen fun closed => ?_
    cases closed with
    | true => exact follows_pure rfl
    | false =>
      refine item.round fun x here => (follows_eat _).andThen fun comma => ?_
      cases comma with
      | true => exact (ih _ (Nat.sub_one_lt_of_lt here)).andThen fun xs => follows_pure rfl
      | false => exact follows_pure rfl

/-- Items up to a mark behind them. -/
theorem follows_listUpTo {w : Walk α} {p : Parser α} (close : Mark) (item : ∀ {k o}, Follows s k o advances w p) :
    Follows s k o advances (listUpTo w close) (listUpTo p close) :=
  .budget fun _ rounds => (follows_separated close item rounds).andThen fun _ =>
    (follows_expectMark _).next fun _ => follows_pure rfl

theorem follows_params : Follows s k o advances params params :=
  (follows_expectMark _).next fun _ => (follows_listUpTo _ follows_identifier).stays

theorem isSome_of_bind {f : Token → Option α} {x : α} (found : o.bind f = some x) : o.isSome := by
  cases o with
  | none => cases found
  | some t => rfl

theorem follows_propertyName : Follows s k o advances propertyName propertyName := by
  refine .peek ?_
  split
  case h_1 x name => exact .skip (isSome_of_bind name) (follows_pure rfl)
  case h_2 => exact follows_fail _

theorem follows_key : Follows s k o advances key key := by
  refine .peek ?_
  split
  case h_1 x name => exact .skip (isSome_of_bind name) (follows_pure rfl)
  case h_2 => exact follows_fail _

/-! ### Expressions -/

/-- The productions of the level below follow, and each one gets ahead. -/
structure Below (s : Setting) (w : Productions Walk) (p : Level) : Prop where
  expression : ∀ {k o}, Follows s k o advances w.expression p.expression
  operand : ∀ {k o}, Follows s k o advances w.operand p.operand
  statement : ∀ {k o}, Follows s k o advances w.statement p.statement

variable {w : Productions Walk} {p : Level}

theorem follows_entry (below : Below s w p) : Follows s k o advances (entry w) (entry p) := by
  refine follows_key.next fun x => (follows_eat _).andThen fun hasValue => ?_
  cases hasValue with
  | true => exact below.expression.andThen fun e => follows_pure rfl
  | false => exact follows_pure rfl

theorem follows_statements (below : Below s w p) {m n : Nat} (rounds : Rounds k m n) :
    Follows s k o stays (statements w m) (statements p n) := by
  induction rounds generalizing o with
  | last =>
    refine .atEnd <| .seesLeft <| .peekLeft ?_
    exact .failLeft
  | @round k m n _ ih =>
    have rest : ∀ {o}, Follows s k o stays (do return (← w.statement) :: (← statements w m))
        (do return (← p.statement) :: (← statements p n)) :=
      below.statement.round fun x here => (ih _ (Nat.sub_one_lt_of_lt here)).andThen fun xs => follows_pure rfl
    refine follows_sees.andThen fun closed {o} => ?_
    cases closed with
    | true => exact follows_pure rfl
    | false =>
      refine .peek ?_
      cases o with
      | none => exact (follows_fail (α := PUnit) (a := stays) .openBlock).andThen fun _ => rest
      | some t => exact rest

theorem follows_block (below : Below s w p) : Follows s k o advances (block w) (block p) :=
  (follows_expectMark _).next fun _ => .budget fun _ rounds =>
    (follows_statements below rounds).andThen fun _ =>
      (follows_expectMark _).andThen fun _ => follows_pure rfl

theorem follows_function (below : Below s w p) : Follows s k o advances (function w) (function p) := by
  refine (follows_expectKeyword _).next fun _ => .peek ?_
  have rest : ∀ {k o} (name : Option String), Follows s k o stays
      (do let ps ← params; return (name, ps, ← block w)) (do let ps ← params; return (name, ps, ← block p)) :=
    fun name => follows_params.andThen fun ps => (follows_block below).andThen fun body => follows_pure rfl
  split
  · exact follows_skip.andThen fun _ => rest _
  · exact rest none

theorem follows_namedFunction (below : Below s w p) : Follows s k o advances (namedFunction w) (namedFunction p) := by
  refine (follows_expectKeyword _).next fun _ => .peek ?_
  split
  · exact follows_skip.andThen fun _ => follows_params.andThen fun ps =>
      (follows_block below).andThen fun body => follows_pure rfl
  · exact follows_fail _

theorem follows_primary (below : Below s w p) : Follows s k o advances (primary w) (primary p) := by
  refine .peek ?_
  split
  · exact .skip rfl (follows_pure rfl)
  · exact .skip rfl (follows_pure rfl)
  · exact .skip rfl (follows_pure rfl)
  · exact .skip rfl (follows_pure rfl)
  · exact .skip rfl (follows_pure rfl)
  · exact .skip rfl (follows_pure rfl)
  · exact (follows_function below).next fun _ => follows_pure rfl
  · exact .skip rfl <| below.expression.andThen fun e =>
      (follows_expectMark _).andThen fun _ => follows_pure rfl
  · exact .skip rfl <| (follows_listUpTo _ below.expression).andThen fun es => follows_pure rfl
  · exact .skip rfl <| (follows_listUpTo _ (follows_entry below)).andThen fun es => follows_pure rfl
  · exact follows_fail _

theorem follows_applied (below : Below s w p) {m n : Nat} (rounds : Rounds k m n)
    (e : Expr) : Follows s k o stays (applied w m e) (applied p n e) := by
  induction rounds generalizing o e with
  | last =>
    refine .atEnd <| .peekLeft ?_
    exact follows_pure rfl
  | @round k m n _ ih =>
    refine .peek ?_
    split
    · exact (follows_skip_token rfl).round fun _ here => follows_propertyName.andThen fun x =>
        ih _ (Nat.sub_one_lt_of_lt here) _
    · exact (follows_skip_token rfl).round fun _ here => below.expression.andThen fun i =>
        (follows_expectMark _).andThen fun _ => ih _ (Nat.sub_one_lt_of_lt here) _
    · exact (follows_skip_token rfl).round fun _ here => (follows_listUpTo _ below.expression).andThen fun es =>
        ih _ (Nat.sub_one_lt_of_lt here) _
    · exact follows_pure rfl

theorem follows_postfixed (below : Below s w p) : Follows s k o advances (postfixed w) (postfixed p) := by
  refine (follows_primary below).next fun e => follows_sees.andThen fun more => ?_
  cases more with
  | true => exact .budget fun _ rounds => follows_applied below rounds e
  | false => exact follows_pure rfl

theorem follows_operand (below : Below s w p) : Follows s k o advances (operand w) (operand p) := by
  refine .peek ?_
  split
  case h_1 op unary =>
    exact .skip (isSome_of_bind unary) <| below.operand.andThen fun e => follows_pure rfl
  case h_2 => exact follows_postfixed below

section Chain

variable {wx : Walk Expr} {px : Parser Expr}

theorem follows_chainAfter (tightness : Nat) (operand : ∀ {k o}, Follows s k o advances wx px) {m n : Nat}
    (rounds : Rounds k m n) (left : Expr) :
    Follows s k o stays (chainAfter tightness wx m left) (chainAfter tightness px n left) := by
  induction rounds generalizing o left with
  | last =>
    refine .atEnd <| .peekLeft ?_
    exact follows_pure rfl
  | @round k m n _ ih =>
    refine .peek ?_
    split
    case h_1 op found =>
      exact (follows_skip_token (isSome_of_bind found)).round fun _ here => operand.andThen fun right =>
        ih _ (Nat.sub_one_lt_of_lt here) _
    case h_2 => exact follows_pure rfl

theorem follows_chain (operand : ∀ {k o}, Follows s k o advances wx px) (tightnesses : List Nat) :
    Follows s k o advances (chain wx tightnesses) (chain px tightnesses) := by
  induction tightnesses generalizing k o with
  | nil => exact operand
  | cons t ts ih =>
    refine ih.next fun left => .peek ?_
    split
    · exact .budget fun _ rounds => follows_chainAfter t ih rounds left
    · exact follows_pure rfl

end Chain

theorem follows_conditional (below : Below s w p) : Follows s k o advances (conditional w) (conditional p) := by
  refine (follows_chain (follows_operand below) _).next fun test => (follows_eat _).andThen fun choice => ?_
  cases choice with
  | true =>
    exact below.expression.andThen fun a => (follows_expectMark _).andThen fun _ =>
      below.expression.andThen fun b => follows_pure rfl
  | false => exact follows_pure rfl

theorem follows_arrow (below : Below s w p) : Follows s k o advances (arrow w) (arrow p) := by
  have body : ∀ {k o} (ps : List String), Follows (α := Expr) s k o stays
      (do
        expectMark .arrow
        if ← sees (Token.isMark .leftBrace) then return .function none ps (← block w)
        return .arrow ps (← w.expression))
      (do
        expectMark .arrow
        if ← sees (Token.isMark .leftBrace) then return .function none ps (← block p)
        return .arrow ps (← p.expression)) := by
    refine fun ps => (follows_expectMark _).andThen fun _ => follows_sees.andThen fun isBlock => ?_
    cases isBlock with
    | true => exact (follows_block below).andThen fun b => follows_pure rfl
    | false => exact below.expression.andThen fun e => follows_pure rfl
  refine follows_sees.andThen fun many => ?_
  cases many with
  | true => exact follows_params.next fun ps => body ps
  | false => exact follows_identifier.next fun x => body [x]

theorem follows_assignment (below : Below s w p) : Follows s k o advances (assignment w) (assignment p) := by
  refine follows_arrowAhead.andThen fun isArrow => ?_
  cases isArrow with
  | true => exact follows_arrow below
  | false =>
    refine (follows_conditional below).next fun e => follows_sees.andThen fun assigns => ?_
    cases assigns with
    | true =>
      rw [if_pos rfl, if_pos rfl]
      split
      · exact follows_skip.andThen fun _ => below.expression.andThen fun e' => follows_pure rfl
      · exact follows_fail _
    | false => exact follows_pure rfl

/-! ### Statements -/

theorem follows_binding (below : Below s w p) : Follows s k o advances (binding w) (binding p) := by
  refine follows_identifier.next fun x => (follows_eat _).andThen fun hasValue => ?_
  cases hasValue with
  | true => exact below.expression.andThen fun e => follows_pure rfl
  | false => exact follows_pure rfl

/-- A declaration gets ahead, and where there is none the head stays where it is. -/
theorem follows_declaration? (below : Below s w p) :
    Follows s k o (fun d => d.isSome.toNat) (declaration? w) (declaration? p) := by
  refine .peek ?_
  split
  · refine (follows_skip_token rfl).bind fun _ _ => (follows_binding below).andThen fun x => ?_
    split
    · exact follows_semicolon.andThen fun _ => follows_pure rfl
    · exact follows_fail _
  · exact (follows_skip_token rfl).bind fun _ _ => (follows_binding below).andThen fun (x, init) =>
      follows_semicolon.andThen fun _ => follows_pure rfl
  · exact (follows_skip_token rfl).bind fun _ _ => (follows_binding below).andThen fun (x, init) =>
      follows_semicolon.andThen fun _ => follows_pure rfl
  · exact (follows_namedFunction below).bind fun (x, ps, body) _ => follows_pure rfl
  · exact follows_pure rfl

theorem follows_branch (below : Below s w p) : Follows s k o advances (branch w) (branch p) := by
  refine follows_sees.andThen fun isBlock => ?_
  cases isBlock with
  | true => exact follows_block below
  | false => exact below.statement.next fun s => follows_pure rfl

theorem follows_statement (below : Below s w p) : Follows s k o advances (statement w) (statement p) := by
  refine (follows_declaration? below).bind fun d _ => ?_
  cases d with
  | some d => exact follows_pure rfl
  | none =>
    refine .peek ?_
    split
    · exact follows_fail _
    · exact follows_fail _
    · refine .skip rfl <| (follows_expectMark _).andThen fun _ => below.expression.andThen fun test =>
        (follows_expectMark _).andThen fun _ => (follows_branch below).andThen fun consequent =>
          (follows_eat _).andThen fun hasElse => ?_
      cases hasElse with
      | true => exact (follows_branch below).andThen fun alternate => follows_pure rfl
      | false => exact follows_pure rfl
    · refine .skip rfl <| .peek ?_
      split
      · exact follows_semicolon.andThen fun _ => follows_pure rfl
      · exact below.expression.andThen fun e => follows_semicolon.andThen fun _ => follows_pure rfl
    · exact .skip rfl <| below.expression.andThen fun e => follows_semicolon.andThen fun _ => follows_pure rfl
    · exact below.expression.next fun e => follows_semicolon.andThen fun _ => follows_pure rfl

/-! ### Items -/

theorem follows_moduleName : Follows s k o advances moduleName moduleName := by
  refine (follows_eat _).bind fun isDefault _ => ?_
  cases isDefault with
  | true => exact follows_pure rfl
  | false => exact follows_identifier

theorem follows_importName : Follows s k o advances importName importName := by
  refine follows_moduleName.next fun imported => (follows_eat _).andThen fun renamed => ?_
  cases renamed with
  | true => exact follows_identifier.andThen fun x => follows_pure rfl
  | false =>
    rw [if_neg Bool.false_ne_true, if_neg Bool.false_ne_true]
    split
    · exact (follows_fail (a := stays) _).andThen fun _ => follows_pure rfl
    · exact follows_pure rfl

theorem follows_exportName : Follows s k o advances exportName exportName := by
  refine follows_moduleName.next fun localName => (follows_eat _).andThen fun renamed => ?_
  cases renamed with
  | true => exact follows_moduleName.andThen fun x => follows_pure rfl
  | false => exact follows_pure rfl

theorem follows_importSource (defaultName : Option String) (names : ImportNames) :
    Follows s k o advances (importSource defaultName names) (importSource defaultName names) :=
  (follows_expectWord _).next fun _ => follows_string.andThen fun _ =>
    follows_semicolon.andThen fun _ => follows_pure rfl

theorem follows_importNames (defaultName : Option String) :
    Follows s k o advances (importNames defaultName) (importNames defaultName) := by
  refine (follows_eat _).bind fun everything _ => ?_
  cases everything with
  | true =>
    exact (follows_expectWord _).andThen fun _ => follows_identifier.andThen fun x =>
      (follows_importSource _ _).stays
  | false =>
    refine (follows_eat _).bind fun some _ => ?_
    cases some with
    | true => exact (follows_listUpTo _ follows_importName).andThen fun names => (follows_importSource _ _).stays
    | false => exact follows_fail _

theorem follows_importing : Follows s k o advances importing importing := by
  refine .peek ?_
  split
  · exact .skip rfl <| follows_semicolon.andThen fun _ => follows_pure rfl
  · refine .skip rfl <| (follows_eat _).andThen fun more => ?_
    cases more with
    | true => exact (follows_importNames _).stays
    | false => exact (follows_importSource _ _).stays
  · exact follows_importNames none

theorem follows_exporting (below : Below s w p) : Follows s k o advances (exporting w) (exporting p) := by
  refine (follows_declaration? below).bind fun d _ => ?_
  cases d with
  | some d => exact follows_pure rfl
  | none =>
    refine .peek ?_
    split
    · refine .skip rfl <| follows_sees.andThen fun isFunction => ?_
      cases isFunction with
      | true =>
        refine (follows_function below).andThen fun f => ?_
        split
        · exact follows_pure rfl
        · exact follows_pure rfl
      | false => exact below.expression.andThen fun e => follows_semicolon.andThen fun _ => follows_pure rfl
    · exact .skip rfl <| (follows_expectWord _).andThen fun _ => follows_string.andThen fun source =>
        follows_semicolon.andThen fun _ => follows_pure rfl
    · refine .skip rfl <| (follows_listUpTo _ follows_exportName).andThen fun names =>
        (follows_eat _).andThen fun hasSource => ?_
      cases hasSource with
      | true => exact follows_string.andThen fun source => follows_semicolon.andThen fun _ => follows_pure rfl
      | false => exact follows_semicolon.andThen fun _ => follows_pure rfl
    · exact follows_fail _

theorem follows_item (below : Below s w p) : Follows s k o advances (item w) (item p) := by
  refine (follows_eat _).bind fun isImport _ => ?_
  cases isImport with
  | true => exact follows_importing.andThen fun i => follows_pure rfl
  | false =>
    refine (follows_eat _).bind fun isExport _ => ?_
    cases isExport with
    | true => exact (follows_exporting below).andThen fun e => follows_pure rfl
    | false => exact (follows_statement below).bind fun x _ => follows_pure rfl

theorem follows_items (below : Below s w p) {m n : Nat} (rounds : Rounds k m n) :
    Follows s k o stays (items w m) (items p n) := by
  induction rounds generalizing o with
  | last =>
    refine .atEnd <| .peekLeft ?_
    exact follows_pure rfl
  | @round k m n _ ih =>
    refine .peek ?_
    cases o with
    | none => exact follows_pure rfl
    | some t =>
      exact (follows_item below).round fun x here =>
        (ih _ (Nat.sub_one_lt_of_lt here)).andThen fun xs => follows_pure rfl

/-! ### Levels -/

/-- **The levels follow,** by induction on how many are left: on each, the productions of the level below do. -/
theorem below_level {n : Nat} (left : s.depth + n = maxNesting) {fuel : Nat} (enough : n < fuel) :
    Below s (Walk.level fuel) (atDepth n) := by
  induction n generalizing s fuel with
  | zero =>
    obtain ⟨fuel, rfl⟩ : ∃ m, fuel = m + 1 := ⟨fuel - 1, by omega⟩
    have deepest : maxNesting ≤ s.depth := by omega
    exact ⟨follows_tooDeep deepest, follows_tooDeep deepest, follows_tooDeep deepest⟩
  | succ n ih =>
    obtain ⟨fuel, rfl⟩ : ∃ m, fuel = m + 1 := ⟨fuel - 1, by omega⟩
    have shallow : s.depth < maxNesting := by omega
    have inner : Below s.below (Walk.level fuel) (atDepth n) := ih (by show s.depth + 1 + n = _; omega) (by omega)
    exact ⟨.nested shallow (follows_assignment inner), .nested shallow (follows_operand inner),
      .nested shallow (follows_statement inner)⟩

end Parser

end Syntax
end ScriptImport
