/-
# The names of variables

`occurrences` lists the places of a program where a variable is named, and what happens to it there.

| role | place |
| --- | --- |
| bound | a declaration, a function, a parameter, an import |
| assigned | the target of an assignment |
| read | an expression |
| shorthand | an entry of an object literal whose value is the variable that its key names |

All names but those of the last kind are identifiers of the source (`namesGood_forms`), so that no module can
bind or assign what is no identifier, such as the binding of its default export.  A key is more than that: it may
be any string, number or keyword, and as a shorthand it reads the variable of that name
(`names_of_parse`, `shorthand_reads_default`).
-/

import ScriptImport.Proofs.Syntax.Grammar
import ScriptImport.Proofs.Syntax.Tiling
import ScriptImport.Module.Evaluate

namespace ScriptImport
namespace Syntax

/-- What happens to a variable where it is named. -/
inductive Role where
  | bound | assigned | read | shorthand
  deriving Repr, DecidableEq

/-- Whether an expression is the variable of the given name. -/
def Expr.isName (x : String) : Expr → Bool
  | .name y => y = x
  | _ => false

mutual

/-- The variables that an expression names. -/
def Expr.occurrences : Expr → List (Role × String)
  | .number _ => []
  | .string _ => []
  | .bool _ => []
  | .null => []
  | .name x => [(.read, x)]
  | .array es => occurrencesOfAll es
  | .object entries => occurrencesOfEntries entries
  | .member e _ => e.occurrences
  | .index e i => e.occurrences ++ i.occurrences
  | .call e args => e.occurrences ++ occurrencesOfAll args
  | .function name ps body => (name.toList ++ ps).map (Role.bound, ·) ++ occurrencesOfBlock body
  | .arrow ps e => ps.map (Role.bound, ·) ++ e.occurrences
  | .unary _ e => e.occurrences
  | .binary _ a b => a.occurrences ++ b.occurrences
  | .logical _ a b => a.occurrences ++ b.occurrences
  | .conditional test a b => test.occurrences ++ a.occurrences ++ b.occurrences
  | .assign target e => target.occurrences ++ e.occurrences

/-- The variables that a target names. -/
def Target.occurrences : Target → List (Role × String)
  | .name x => [(.assigned, x)]
  | .member e _ => e.occurrences
  | .index e i => e.occurrences ++ i.occurrences

/-- The variables that expressions name. -/
def occurrencesOfAll : List Expr → List (Role × String)
  | [] => []
  | e :: es => e.occurrences ++ occurrencesOfAll es

/-- The variables that the entries of an object literal name. -/
def occurrencesOfEntries : List (String × Expr) → List (Role × String)
  | [] => []
  | (k, e) :: entries =>
    (if e.isName k then [(.shorthand, k)] else e.occurrences) ++ occurrencesOfEntries entries

/-- The variables that a declaration names. -/
def Declaration.occurrences : Declaration → List (Role × String)
  | .constant x e => (.bound, x) :: e.occurrences
  | .variable _ x none => [(.bound, x)]
  | .variable _ x (some e) => (.bound, x) :: e.occurrences
  | .function x ps body => (x :: ps).map (Role.bound, ·) ++ occurrencesOfBlock body

/-- The variables that a statement names. -/
def Stmt.occurrences : Stmt → List (Role × String)
  | .declare d => d.occurrences
  | .eval e => e.occurrences
  | .branch test consequent none => test.occurrences ++ occurrencesOfBlock consequent
  | .branch test consequent (some alternate) =>
    test.occurrences ++ occurrencesOfBlock consequent ++ occurrencesOfBlock alternate
  | .leave none => []
  | .leave (some e) => e.occurrences
  | .throw e => e.occurrences

/-- The variables that statements name. -/
def occurrencesOfBlock : List Stmt → List (Role × String)
  | [] => []
  | s :: ss => s.occurrences ++ occurrencesOfBlock ss

end

/-- The names that an import binds. -/
def Import.localNames (i : Import) : List String :=
  i.defaultName.toList ++ match i.names with
    | .everything x => [x]
    | .some ns => ns.map (·.localName)

/-- The variables that an item names. -/
def Item.occurrences : Item → List (Role × String)
  | .importing i => i.localNames.map (Role.bound, ·)
  | .exporting (.defaultValue e) => e.occurrences
  | .exporting (.defaultFunction x ps body) => (x :: ps).map (Role.bound, ·) ++ occurrencesOfBlock body
  | .exporting (.declaration d) => d.occurrences
  | .exporting _ => []
  | .statement s => s.occurrences

/-- The variables that a program names. -/
def Program.occurrences (p : Program) : List (Role × String) := p.body.flatMap Item.occurrences

theorem occurrencesOfAll_eq (es : List Expr) : occurrencesOfAll es = es.flatMap Expr.occurrences := by
  induction es with
  | nil => rfl
  | cons e es ih => rw [occurrencesOfAll, ih, List.flatMap_cons]

theorem occurrencesOfBlock_eq (ss : List Stmt) : occurrencesOfBlock ss = ss.flatMap Stmt.occurrences := by
  induction ss with
  | nil => rfl
  | cons s ss ih => rw [occurrencesOfBlock, ih, List.flatMap_cons]

theorem occurrencesOfEntries_eq (entries : List (String × Expr)) : occurrencesOfEntries entries =
    entries.flatMap fun (k, e) => if e.isName k then [(.shorthand, k)] else e.occurrences := by
  induction entries with
  | nil => rfl
  | cons e entries ih => rw [occurrencesOfEntries, ih, List.flatMap_cons]

/-! ### Names of the forms -/

variable {T : Token → Prop} {f : Forms}

/-- A shorthand is the key of a token, and every other name is an identifier. -/
def GoodName (T : Token → Prop) : Role × String → Prop
  | (.shorthand, x) => Named T Token.key? x
  | (_, x) => T (.identifier x)

/-- The names in the trees of these forms are good. -/
structure Forms.NamesGood (T : Token → Prop) (f : Forms) : Prop where
  expression : ∀ e, f.expression e → ∀ o ∈ e.occurrences, GoodName T o
  operand : ∀ e, f.operand e → ∀ o ∈ e.occurrences, GoodName T o
  statement : ∀ s, f.statement s → ∀ o ∈ s.occurrences, GoodName T o

theorem goodName_bound {xs : List String} (h : ∀ x ∈ xs, T (.identifier x)) :
    ∀ o ∈ xs.map (Role.bound, ·), GoodName T o := by
  intro o ho
  obtain ⟨x, hx, rfl⟩ := List.mem_map.1 ho
  exact h x hx

theorem Forms.NamesGood.all (h : f.NamesGood T) {es : List Expr} (hes : ∀ e ∈ es, f.expression e) :
    ∀ o ∈ occurrencesOfAll es, GoodName T o := by
  intro o ho
  rw [occurrencesOfAll_eq] at ho
  obtain ⟨e, he, ho⟩ := List.mem_flatMap.1 ho
  exact h.expression e (hes e he) o ho

theorem Forms.NamesGood.block (h : f.NamesGood T) {ss : List Stmt} (hss : ∀ s ∈ ss, f.statement s) :
    ∀ o ∈ occurrencesOfBlock ss, GoodName T o := by
  intro o ho
  rw [occurrencesOfBlock_eq] at ho
  obtain ⟨s, hs, ho⟩ := List.mem_flatMap.1 ho
  exact h.statement s (hss s hs) o ho

theorem Forms.NamesGood.entries (h : f.NamesGood T) {entries : List (String × Expr)}
    (hentries : ∀ e ∈ entries, EntryForm T f e) : ∀ o ∈ occurrencesOfEntries entries, GoodName T o := by
  intro o ho
  rw [occurrencesOfEntries_eq] at ho
  obtain ⟨⟨k, e⟩, he, ho⟩ := List.mem_flatMap.1 ho
  dsimp only at ho
  cases hentries (k, e) he with
  | value hk he =>
    split at ho
    · obtain rfl := List.mem_singleton.1 ho
      exact hk
    · exact h.expression e he o ho
  | short hk =>
    rw [if_pos (by simp [Expr.isName])] at ho
    obtain rfl := List.mem_singleton.1 ho
    exact hk

theorem goodName_function (h : f.NamesGood T) (name : Option String) {ps : List String} {body : List Stmt}
    (hname : ∀ x ∈ name, T (.identifier x)) (hps : ∀ x ∈ ps, T (.identifier x))
    (hbody : ∀ s ∈ body, f.statement s) :
    ∀ o ∈ (name.toList ++ ps).map (Role.bound, ·) ++ occurrencesOfBlock body, GoodName T o := by
  refine List.forall_mem_append.2 ⟨goodName_bound fun x hx => ?_, h.block hbody⟩
  rcases List.mem_append.1 hx with hx | hx
  · exact hname x (Option.mem_toList.1 hx)
  · exact hps x hx

theorem Primary.goodName (h : f.NamesGood T) {e : Expr} (he : Primary T f e) :
    ∀ o ∈ e.occurrences, GoodName T o := by
  cases he with
  | name hx => exact fun o ho => List.mem_singleton.1 ho ▸ hx
  | function hname hps hbody => exact goodName_function h _ hname hps hbody
  | nested he => exact h.expression e he
  | array hes => exact h.all hes
  | object hentries => exact h.entries hentries
  | _ => exact fun o ho => absurd ho List.not_mem_nil

theorem Postfixed.goodName (h : f.NamesGood T) {e : Expr} (he : Postfixed T f e) :
    ∀ o ∈ e.occurrences, GoodName T o := by
  induction he with
  | primary he => exact he.goodName h
  | member _ _ ih => exact ih
  | index _ hi ih => exact List.forall_mem_append.2 ⟨ih, h.expression _ hi⟩
  | call _ hargs ih => exact List.forall_mem_append.2 ⟨ih, h.all hargs⟩

theorem OperandForm.goodName (h : f.NamesGood T) {e : Expr} (he : OperandForm T f e) :
    ∀ o ∈ e.occurrences, GoodName T o := by
  cases he with
  | @unary _ e he => exact h.operand e he
  | postfixed he => exact he.goodName h

theorem Chained.goodName (h : f.NamesGood T) {n : Nat} {e : Expr} (he : Chained T f n e) :
    ∀ o ∈ e.occurrences, GoodName T o := by
  induction he with
  | operand he => exact he.goodName h
  | tighter _ ih => exact ih
  | apply op _ _ ihleft ihright => cases op <;> exact List.forall_mem_append.2 ⟨ihleft, ihright⟩

theorem ConditionalForm.goodName (h : f.NamesGood T) {e : Expr} (he : ConditionalForm T f e) :
    ∀ o ∈ e.occurrences, GoodName T o := by
  cases he with
  | operators he => exact he.goodName h
  | choice ht ha hb =>
    exact List.forall_mem_append.2
      ⟨List.forall_mem_append.2 ⟨ht.goodName h, h.expression _ ha⟩, h.expression _ hb⟩

/-- What an expression reads and what the target that it is assigns are the same names. -/
theorem goodName_target {target : Target} (h : ∀ o ∈ target.expr.occurrences, GoodName T o) :
    ∀ o ∈ target.occurrences, GoodName T o := by
  cases target with
  | name x =>
    intro o ho
    obtain rfl := List.mem_singleton.1 ho
    exact h (.read, x) (List.mem_singleton_self _)
  | member e x => exact h
  | index e i => exact h

theorem ExpressionForm.goodName (h : f.NamesGood T) {e : Expr} (he : ExpressionForm T f e) :
    ∀ o ∈ e.occurrences, GoodName T o := by
  cases he with
  | conditional he => exact he.goodName h
  | assign ht he => exact List.forall_mem_append.2 ⟨goodName_target (ht.goodName h), h.expression _ he⟩
  | arrow hps he => exact List.forall_mem_append.2 ⟨goodName_bound hps, h.expression _ he⟩
  | block hps hbody => exact goodName_function h none nofun hps hbody

theorem DeclarationForm.goodName (h : f.NamesGood T) {d : Declaration} (hd : DeclarationForm T f d) :
    ∀ o ∈ d.occurrences, GoodName T o := by
  have hbound : ∀ {x : String} {os : List (Role × String)}, T (.identifier x) → (∀ o ∈ os, GoodName T o) →
      ∀ o ∈ (Role.bound, x) :: os, GoodName T o := fun hx hos => List.forall_mem_cons.2 ⟨hx, hos⟩
  cases hd with
  | constant hx he => exact hbound hx (h.expression _ he)
  | @«variable» _ _ init hx hinit =>
    cases init with
    | none => exact hbound hx fun o ho => absurd ho List.not_mem_nil
    | some e => exact hbound hx (h.expression e (hinit e rfl))
  | @function x ps body hx hps hbody =>
    exact goodName_function h (some x) (fun y hy => Option.some.inj hy ▸ hx) hps hbody

theorem StatementForm.goodName (h : f.NamesGood T) {s : Stmt} (hs : StatementForm T f s) :
    ∀ o ∈ s.occurrences, GoodName T o := by
  cases hs with
  | declare hd => exact hd.goodName h
  | eval he => exact h.expression _ he
  | @branch _ _ alternate ht hconsequent halternate =>
    have hfirst := List.forall_mem_append.2 ⟨h.expression _ ht, h.block hconsequent⟩
    cases alternate with
    | none => exact hfirst
    | some ss => exact List.forall_mem_append.2 ⟨hfirst, h.block (halternate ss rfl)⟩
  | @leave value he =>
    cases value with
    | none => exact fun o ho => absurd ho List.not_mem_nil
    | some e => exact h.expression e (he e rfl)
  | throw he => exact h.expression _ he

/-- **All names in the trees of a level are good.** -/
theorem namesGood_forms (T : Token → Prop) (n : Nat) : (forms T n).NamesGood T := by
  induction n with
  | zero => exact ⟨nofun, nofun, nofun⟩
  | succ n ih => exact ⟨fun _ he => he.goodName ih, fun _ he => he.goodName ih, fun _ hs => hs.goodName ih⟩

theorem ItemForm.goodName (h : f.NamesGood T) {i : Item} (hi : ItemForm T f i) :
    ∀ o ∈ i.occurrences, GoodName T o := by
  cases hi with
  | @importing i hi =>
    refine goodName_bound fun x hx => ?_
    rcases List.mem_append.1 hx with hx | hx
    · exact hi.defaultName x (Option.mem_toList.1 hx)
    · cases hnames : i.names with
      | everything y =>
        rw [hnames] at hx
        exact hi.everything x (hnames.trans (congrArg _ (List.mem_singleton.1 hx).symm))
      | some ns =>
        rw [hnames] at hx
        obtain ⟨n, hn, rfl⟩ := List.mem_map.1 hx
        exact hi.some ns hnames n hn
  | exporting he =>
    cases he with
    | defaultValue he => exact h.expression _ he
    | defaultNameless hps hbody => exact goodName_function h none nofun hps hbody
    | @defaultFunction x _ _ hx hps hbody =>
      exact goodName_function h (some x) (fun y hy => Option.some.inj hy ▸ hx) hps hbody
    | declaration hd => exact hd.goodName h
    | _ => exact fun o ho => absurd ho List.not_mem_nil
  | statement hs => exact hs.goodName h

/-! ### Names of tokens -/

theorem isIdentifier_of_front {c : Char} {cs text rest : List Char} {x : String}
    (h : front c cs = .lexeme (.identifier x) text rest) : IsIdentifier x := by
  cases (front_eq_lexeme_iff.1 h).1 with
  | identifier hx => exact hx

/-- **The identifiers of a source are identifiers.** -/
theorem isIdentifier_of_scan {p : Position} {cs : List Char} {ts : List Located} (h : scan p cs = .ok ts)
    {t : Located} (ht : t ∈ ts) {x : String} (hx : t.token = .identifier x) : IsIdentifier x := by
  fun_induction scan p cs generalizing ts with
  | case1 =>
    cases h
    exact absurd ht List.not_mem_nil
  | case2 _ _ _ _ _ _ ih => exact ih h ht
  | case3 p c cs _ token text rest hfront ih =>
    obtain ⟨ts', hts', rfl⟩ := map_ok_inv h
    rcases List.mem_cons.1 ht with rfl | ht
    · obtain rfl : token = .identifier x := hx
      exact isIdentifier_of_front hfront
    · exact ih hts' ht
  | case4 => cases h

theorem not_isIdentifier_defaultBinding : ¬ IsIdentifier Script.defaultBinding := by
  rintro ⟨⟨c, cs, hname, hc, -⟩, -⟩
  obtain rfl : '*' = c := (List.cons.inj (show '*' :: _ = c :: cs from hname)).1
  exact absurd hc (by decide)

/-- **Variables are identifiers of the source, except in shorthands.**  A name that is bound, assigned or read by
itself is the text of an identifier of the source, so it is no keyword and not the hidden name of the default
export.  The name of a shorthand is the key of a token of the source, and it can be any text. -/
theorem names_of_parse {source : String} {p : Program} (h : parse source = .ok p) :
    ∃ ts, tokenize source = .ok ts ∧ ∀ o ∈ p.occurrences,
      if o.1 = .shorthand then ∃ t ∈ ts.tokens, t.token.key? = some o.2
      else (∃ t ∈ ts.tokens, t.token = .identifier o.2) ∧ IsIdentifier o.2 ∧ o.2 ≠ Script.defaultBinding := by
  obtain ⟨ts, hts, hitems⟩ := itemForm_of_parse h
  refine ⟨ts, hts, fun o ho => ?_⟩
  obtain ⟨i, hi, ho⟩ := List.mem_flatMap.1 ho
  have hgood := (hitems i hi).goodName (namesGood_forms _ _) o ho
  obtain ⟨role, x⟩ := o
  have hidentifier : .identifier x ∈ ts.tokens.map (·.token) →
      (∃ t ∈ ts.tokens, t.token = .identifier x) ∧ IsIdentifier x ∧ x ≠ Script.defaultBinding := by
    intro hx
    obtain ⟨t, ht, hx⟩ := List.mem_map.1 hx
    have hword : IsIdentifier x := isIdentifier_of_scan (scan_of_tokenize hts) ht hx
    exact ⟨⟨t, ht, hx⟩, hword, fun heq => not_isIdentifier_defaultBinding (heq ▸ hword)⟩
  cases role with
  | shorthand =>
    obtain ⟨token, htoken, hkey⟩ := hgood
    obtain ⟨t, ht, rfl⟩ := List.mem_map.1 htoken
    exact ⟨t, ht, hkey⟩
  | bound => exact hidentifier hgood
  | assigned => exact hidentifier hgood
  | read => exact hidentifier hgood

/-- A function and a shorthand with the key of a string: the one names identifiers, the other one does not. -/
theorem names_of_parse_shorthand :
    let source := "function f(x) \x7b return \x7b'a b': x, 'c d'\x7d; \x7d"
    ∃ p, parse source = .ok p ∧
      p.occurrences = [(.bound, "f"), (.bound, "x"), (.read, "x"), (.shorthand, "c d")] ∧
      ∃ ts, tokenize source = .ok ts ∧ (∃ t ∈ ts.tokens, t.token = .identifier "x") ∧
        ∃ t ∈ ts.tokens, t.token.key? = some "c d" := by
  intro source
  have hoccurrences : (parse source).toOption.map Program.occurrences =
      some [(.bound, "f"), (.bound, "x"), (.read, "x"), (.shorthand, "c d")] := by decide +kernel
  cases hparse : parse source with
  | error e =>
    rw [hparse] at hoccurrences
    cases hoccurrences
  | ok p =>
    rw [hparse] at hoccurrences
    have hp := Option.some.inj hoccurrences
    obtain ⟨ts, hts, hnames⟩ := names_of_parse hparse
    rw [hp] at hnames
    exact ⟨p, rfl, hp, ts, hts, (hnames (.read, "x") (by simp)).1, hnames (.shorthand, "c d") (by simp)⟩

/-- **A shorthand reads the hidden name of the default export.** -/
theorem shorthand_reads_default :
    let source := "export default 'hidden'; export const seen = \x7b'*default*'\x7d;"
    let s : Session := ⟨⟨⟨[], []⟩, [], [], [], 0⟩, .empty ⟨none, "/tmp", none, [], 1, "linux", "x64"⟩⟩
    ∃ p, parse source = .ok p ∧ (.shorthand, Script.defaultBinding) ∈ p.occurrences ∧
      ¬ IsIdentifier Script.defaultBinding ∧
      ∃ entries s' o, (Module.ofProgram ⟨"file", none, .segments ["a"], none, none⟩ p 0).runBody.run s =
          (.ok entries, s') ∧
        Dict.get? entries "seen" = some (.object o) ∧
        Dict.get? (s'.scripts.object o) Script.defaultBinding = some (.string "hidden") := by
  intro source s
  let ran (p : Program) := (Module.ofProgram ⟨"file", none, .segments ["a"], none, none⟩ p 0).runBody.run s
  have hoccurrences : (parse source).toOption.any
      fun p => (.shorthand, Script.defaultBinding) ∈ p.occurrences := by decide +kernel
  have hseen : (parse source).toOption.any fun p =>
      ((ran p).1.toOption.bind (Dict.get? · "seen")).any (Script.Value.strictEq (.object 0)) := by decide +kernel
  have hhidden : (parse source).toOption.any fun p =>
      (Dict.get? ((ran p).2.scripts.object 0) Script.defaultBinding).any
        (Script.Value.strictEq (.string "hidden")) := by decide +kernel
  cases hparse : parse source with
  | error e =>
    rw [hparse] at hoccurrences
    cases hoccurrences
  | ok p =>
    rw [hparse] at hoccurrences hseen hhidden
    refine ⟨p, rfl, of_decide_eq_true hoccurrences, not_isIdentifier_defaultBinding, ?_⟩
    rw [Except.toOption, Option.any_some] at hseen hhidden
    obtain ⟨v, hv, hobject⟩ := (Option.any_eq_true ..).1 hseen
    obtain ⟨w, hw, hstring⟩ := (Option.any_eq_true ..).1 hhidden
    obtain rfl := Script.Value.eq_object_of_strictEq hobject
    obtain rfl := Script.Value.eq_string_of_strictEq hstring
    obtain ⟨entries, hentries, hv⟩ := Option.bind_eq_some_iff.1 hv
    cases hrun : ran p with
    | mk result s' =>
      rw [hrun] at hentries hw
      cases result with
      | error e => cases hentries
      | ok entries' =>
        cases hentries
        exact ⟨entries, s', 0, hrun, hv, hw⟩

end Syntax
end ScriptImport
