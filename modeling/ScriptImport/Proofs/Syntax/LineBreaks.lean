/-
# Sources can be cut at line breaks

Nothing but a block comment that is not closed goes over a line break: no lexeme has one in it, and a line comment ends
in front of it.  So a source that is cut into tokens and does not end in a block comment keeps its tokens when a line
break and more text follow (`Tiles.append_break`), and behind the break everything is read as in a source of its own,
only in later places (`scan_shift`).  Together this is `tokenize_line_break`.
-/

import Mathlib
import ScriptImport.Proofs.Syntax.Tiling

namespace ScriptImport
namespace Syntax

variable {cs text next rest read : List Char}

/-! ### What a line break ends -/

/-- Whether a source ends inside a block comment: one starts behind some tokens and gaps, and it is not closed. -/
def EndsInComment (cs : List Char) : Prop :=
  ∃ ts text, Tiles [] cs ts ('/' :: '*' :: text) ∧ ¬ ['*', '/'] <:+: text

/-- A source in which all that looks like the start of a block comment is closed does not end in one. -/
theorem not_endsInComment (h : ∀ s ∈ cs.tails, ['/', '*'] <+: s → ['*', '/'] <:+: s.drop 2) : ¬ EndsInComment cs := by
  rintro ⟨ts, text, htiles, hopen⟩
  obtain ⟨front, rfl, -⟩ := htiles.exists_scan
  exact hopen (h ('/' :: '*' :: text) ((List.mem_tails _ _).2 (List.suffix_append ..)) ⟨text, rfl⟩)

theorem prefix_of_not_mem {t a b : List Char} {c : Char} (hpre : t <+: a ++ c :: b) (hc : c ∉ t) : t <+: a := by
  rcases List.prefix_or_prefix_of_prefix hpre (List.prefix_append ..) with h | ⟨more, rfl⟩
  · exact h
  · cases more with
    | nil => simp
    | cons d more =>
      rw [List.prefix_append_right_inj] at hpre
      obtain ⟨rfl, -⟩ := List.cons_prefix_cons.1 hpre
      simp at hc

theorem gap?_append_break {c : Char} (h : gap? (c :: cs) = none) (b : List Char) :
    gap? (c :: cs ++ '\n' :: b) = none := by
  obtain ⟨hblank, hslash⟩ := gap?_eq_none_iff.1 h
  refine gap?_eq_none_iff.2 ⟨hblank, fun hc d t heq => ?_⟩
  cases cs with
  | nil =>
    obtain ⟨rfl, -⟩ := List.cons.inj heq
    decide
  | cons e cs =>
    obtain ⟨rfl, -⟩ := List.cons.inj heq
    exact hslash hc _ cs rfl

/-- A gap that the end of a source does not close is a block comment. -/
theorem Gap.append_break (h : Gap text next) (b : List Char) :
    Gap text (next ++ '\n' :: b) ∨ next = [] ∧ ∃ t, text = '/' :: '*' :: t ∧ ¬ ['*', '/'] <:+: t := by
  cases h with
  | blanks hne hblank => exact .inl (.blanks hne hblank)
  | lineComment hbreak hstop =>
    refine .inl (.lineComment hbreak fun c t heq => ?_)
    cases next with
    | nil => exact (List.cons.inj heq).1.symm
    | cons d next =>
      obtain ⟨rfl, -⟩ := List.cons.inj heq
      exact hstop d next rfl
  | blockComment hclose => exact .inl (.blockComment hclose)
  | openComment hopen => exact .inr ⟨rfl, _, rfl, hopen⟩

/-- **A line break keeps what is in front of it,** if that does not end in a block comment. -/
theorem Tiles.append_break {ts : List Located} (h : Tiles read cs ts [])
    (hclosed : ∀ us text, Tiles read cs us ('/' :: '*' :: text) → ['*', '/'] <:+: text) (b : List Char) :
    Tiles read (cs ++ '\n' :: b) ts ('\n' :: b) := by
  generalize hrest : ([] : List Char) = rest at h
  induction h with
  | done => exact hrest ▸ .done
  | @gap read text next rest ts hgap h ih =>
    rw [List.append_assoc]
    rcases hgap.append_break b with hgap' | ⟨rfl, t, rfl, hopen⟩
    · exact .gap hgap' (ih (fun us t ht => hclosed us t (.gap hgap ht)) hrest)
    · rw [List.append_nil] at hclosed
      exact absurd (hclosed [] t .done) hopen
  | @token read text next rest token ts hne halone hlongest hgap h ih =>
    rw [List.append_assoc]
    refine .token hne halone (fun t ht hpre => ?_) (forall_gap_ne_iff.2 ?_)
      (ih (fun us t ht => hclosed _ t (.token hne halone hlongest hgap ht)) hrest)
    · obtain ⟨token', hlexeme⟩ := ht
      rw [← List.append_assoc] at hpre
      exact hlongest t ⟨token', hlexeme⟩ (prefix_of_not_mem hpre hlexeme.not_mem_break)
    · obtain ⟨c, text, rfl⟩ := List.exists_cons_of_ne_nil hne
      have hbreak := gap?_append_break (forall_gap_ne_iff.1 hgap) b
      rwa [← List.append_assoc]

/-! ### Later places -/

/-- A span that is moved by some bytes and some lines. -/
def Span.shift (s : Span) (bytes lines : Nat) : Span :=
  ⟨s.start + bytes, s.stop + bytes, s.line + UInt32.ofNat lines, s.column⟩

/-- A place that is moved by some bytes and some lines. -/
def Position.shift (p : Position) (bytes lines : Nat) : Position :=
  ⟨p.offset + bytes, p.line + UInt32.ofNat lines, p.column⟩

/-- A token whose span is moved. -/
def Located.shift (t : Located) (bytes lines : Nat) : Located := ⟨t.token, t.span.shift bytes lines⟩

/-- What a scan gives, with all spans moved. -/
def shifted (bytes lines : Nat) : Except ScanError (List Located) → Except ScanError (List Located)
  | .ok ts => .ok (ts.map (·.shift bytes lines))
  | .error e => .error ⟨e.text, e.span.shift bytes lines⟩

variable {n k : Nat}

theorem Position.afterAll_shift (p : Position) (text : List Char) :
    (p.shift n k).afterAll text = (p.afterAll text).shift n k := by
  induction text generalizing p with
  | nil => rfl
  | cons c text ih =>
    have hafter : (p.shift n k).after c = (p.after c).shift n k := by
      unfold Position.after
      split <;> simp [shift, add_right_comm]
    show ((p.shift n k).after c).afterAll text = _
    rw [hafter, ih]
    rfl

theorem Position.span_shift (p : Position) (text : List Char) : (p.shift n k).span text = (p.span text).shift n k := by
  rw [span, afterAll_shift]
  rfl

/-- **A later scan gives later places,** and is the same otherwise. -/
theorem scan_shift (p : Position) (cs : List Char) : scan (p.shift n k) cs = shifted n k (scan p cs) := by
  fun_induction scan p cs with
  | case1 => rw [scan]; rfl
  | case2 p c cs text rest hgap ih => rw [scan_gap? hgap, Position.afterAll_shift, ih]
  | case3 p c cs hgap token text rest hfront ih =>
    rw [scan_front hgap hfront, Position.afterAll_shift, ih, Position.span_shift]
    cases scan (p.afterAll text) rest <;> rfl
  | case4 p c cs hgap text hfront =>
    rw [scan_broken hgap hfront, Position.span_shift]
    rfl

/-- The place behind a source and a line break. -/
theorem start_afterAll_break (a : String) : (Position.start.afterAll a.toList).after '\n' =
    Position.start.shift (a.utf8ByteSize + 1) (a.toList.count '\n' + 1) := by
  have hbytes : bytes a.toList = a.utf8ByteSize := by rw [bytes, String.ofList_toList]
  rw [start_afterAll, hbytes]
  simp [Position.after, Position.shift, Position.start, add_comm]

/-- **Sources can be cut at line breaks.**  If `a` is cut into tokens and does not end inside a block comment, then
behind a line break `b` is read as by itself: its tokens follow those of `a`, or its error is reported, in places that
are later by the bytes and the lines of `a` and of the break. -/
theorem tokenize_line_break {a b : String} {t : Tokens} (ha : tokenize a = .ok t) (hclosed : ¬ EndsInComment a.toList) :
    tokenize (a ++ "\n" ++ b) =
      match tokenize b with
      | .ok u => .ok ⟨t.tokens ++ u.tokens.map (·.shift (a.utf8ByteSize + 1) (a.toList.count '\n' + 1)),
          u.stop.shift (a.utf8ByteSize + 1) (a.toList.count '\n' + 1)⟩
      | .error e => .error ⟨e.text, e.span.shift (a.utf8ByteSize + 1) (a.toList.count '\n' + 1)⟩ := by
  have htiles : Tiles [] a.toList t.tokens [] := by
    have h := tiled_scan [] a.toList
    rwa [show Position.start.afterAll [] = Position.start from rfl, scan_of_tokenize ha] at h
  have hends : ∀ us text, Tiles [] a.toList us ('/' :: '*' :: text) → ['*', '/'] <:+: text :=
    fun us text h => not_not.1 fun hopen => hclosed ⟨us, text, h, hopen⟩
  obtain ⟨front, hfront, hscan⟩ := (htiles.append_break hends b.toList).exists_scan
  obtain rfl := List.append_cancel_right hfront
  have hsource : (a ++ "\n" ++ b).toList = a.toList ++ '\n' :: b.toList := by simp
  have hafter : Position.start.afterAll (a.toList ++ '\n' :: b.toList) =
      (Position.start.afterAll b.toList).shift (a.utf8ByteSize + 1) (a.toList.count '\n' + 1) := by
    rw [Position.afterAll_append, ← Position.afterAll_shift, ← start_afterAll_break]
    rfl
  rw [List.nil_append, scan_blank (by decide), start_afterAll_break, scan_shift] at hscan
  rw [tokenize, hsource, show Position.start = Position.start.afterAll [] from rfl, hscan]
  rw [show Position.start.afterAll [] = Position.start from rfl, hafter, Position.span_shift, tokenize]
  cases scan .start b.toList <;> rfl

/-- A comment over two lines, a string and a comment that runs up to the end are closed in front of the break. -/
theorem tokenize_line_break_comment :
    let a := "/* \n*/ '//' // é"
    let b := "\n y /*"
    let t : Tokens := ⟨[⟨.string "//", 7, 11, 2, 4⟩], 17, 17, 2, 14⟩
    tokenize a = .ok t ∧ ¬ EndsInComment a.toList ∧ tokenize (a ++ "\n" ++ b) =
      match tokenize b with
      | .ok u => .ok ⟨t.tokens ++ u.tokens.map (·.shift (a.utf8ByteSize + 1) (a.toList.count '\n' + 1)),
          u.stop.shift (a.utf8ByteSize + 1) (a.toList.count '\n' + 1)⟩
      | .error e => .error ⟨e.text, e.span.shift (a.utf8ByteSize + 1) (a.toList.count '\n' + 1)⟩ := by
  intro a b t
  have ha : tokenize a = .ok t := by cbv
  have hclosed : ¬ EndsInComment a.toList := not_endsInComment (by decide)
  exact ⟨ha, hclosed, tokenize_line_break ha hclosed⟩

end Syntax
end ScriptImport
