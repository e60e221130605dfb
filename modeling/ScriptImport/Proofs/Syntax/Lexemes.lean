/-
# Lexemes

`Lexeme token text` says which texts a token has: the characters of a keyword or of a mark, an identifier, a number
by its grammar, or a string with what its escapes stand for.  No text has two tokens (`Lexeme.unique`).

What `front` reads is the longest lexeme that stands at the front of a source, and if it reads none, none stands
there (`fits_front`, `front_eq_lexeme_iff`).  This is shown for each kind of token by itself, since the first
character of a lexeme gives its kind away (`Token.StartsWith`).  A number has three parts, and the longest number is
made of the longest parts because no part starts with a character that would have made the one before it longer
(`Longest.seq`).
-/

import Mathlib.Tactic.Tauto
import ScriptImport.Syntax.Scan

namespace ScriptImport
namespace Syntax

/-! ### The longest text of a language -/

/-- `text` is the longest text of the language `L` at the front of `cs`, and `rest` is what follows it. -/
structure Longest (L : List Char → Prop) (cs text rest : List Char) : Prop where
  append : text ++ rest = cs
  mem : L text
  longest : ∀ t, L t → t <+: cs → t <+: text

/-- A text of the first language and then one of the second. -/
def Seq (A B : List Char → Prop) (t : List Char) : Prop := ∃ a b, A a ∧ B b ∧ a ++ b = t

variable {A B L : List Char → Prop} {cs text rest : List Char} {p : Char → Bool}

theorem prefix_takeWhile {t : List Char} (ht : ∀ c ∈ t, p c) (hpre : t <+: cs) : t <+: cs.takeWhile p := by
  obtain ⟨r, rfl⟩ := hpre
  rw [List.takeWhile_append_of_pos ht]
  exact List.prefix_append ..

theorem Longest.unique {text' rest' : List Char} (h : Longest L cs text rest) (h' : Longest L cs text' rest') :
    text = text' ∧ rest = rest' := by
  have htext : text = text' :=
    (h'.longest text h.mem ⟨rest, h.append⟩).eq_of_length_le
      (h.longest text' h'.mem ⟨rest', h'.append⟩).length_le
  subst htext
  exact ⟨rfl, List.append_cancel_left (h.append.trans h'.append.symm)⟩

/-- Nothing is the longest text where no other text of the language stands. -/
theorem Longest.nothing (hnil : L []) (h : ∀ c t, L (c :: t) → ¬ c :: t <+: cs) : Longest L cs [] cs where
  append := rfl
  mem := hnil
  longest t ht hpre := by
    cases t with
    | nil => exact List.nil_prefix
    | cons c t => exact absurd hpre (h c t ht)

/-- **Two longest texts, one behind the other,** are the longest text of both languages, if no text of the second
language starts with a character that would have made the first text longer. -/
theorem Longest.seq {a r b r' : List Char} {q : Char → Prop} (ha : Longest A cs a r) (hb : Longest B r b r')
    (hstart : ∀ c t, B (c :: t) → q c) (hmore : ∀ a' c x, A a' → a = a' ++ c :: x → ¬ q c) :
    Longest (Seq A B) cs (a ++ b) r' where
  append := by rw [List.append_assoc, hb.append, ha.append]
  mem := ⟨a, b, ha.mem, hb.mem, rfl⟩
  longest := by
    rintro _ ⟨a', b', ha', hb', rfl⟩ hpre
    obtain ⟨x, rfl⟩ := ha.longest a' ha' ((List.prefix_append ..).trans hpre)
    cases x with
    | nil =>
      rw [List.append_nil] at ha ⊢
      rw [← ha.append, List.prefix_append_right_inj] at hpre
      exact (List.prefix_append_right_inj _).2 (hb.longest b' hb' hpre)
    | cons c x =>
      rw [← ha.append, List.append_assoc, List.prefix_append_right_inj] at hpre
      cases b' with
      | nil => simp
      | cons d b' =>
        obtain ⟨rfl, -⟩ := List.cons_prefix_cons.1 hpre
        exact absurd (hstart d b' hb') (hmore a' d x ha' rfl)

/-! ### Numbers -/

/-- Digits, at least one. -/
def IsDigits (cs : List Char) : Prop := cs ≠ [] ∧ ∀ c ∈ cs, c.isDigit

instance (cs : List Char) : Decidable (IsDigits cs) :=
  decidable_of_iff (cs ≠ [] ∧ cs.all Char.isDigit) (and_congr_right' List.all_eq_true)

/-- The decimal places of a number: none, or a point and digits. -/
inductive IsPlaces : List Char → Prop where
  | none : IsPlaces []
  | some {ds : List Char} (h : IsDigits ds) : IsPlaces ('.' :: ds)

/-- What stands in front of the digits of an exponent. -/
inductive IsPowerLead : List Char → Prop where
  | plain {e : Char} (he : e = 'e' ∨ e = 'E') : IsPowerLead [e]
  | signed {e sign : Char} (he : e = 'e' ∨ e = 'E') (hsign : sign = '+' ∨ sign = '-') : IsPowerLead [e, sign]

/-- The exponent of a number, which may be missing. -/
inductive IsPower : List Char → Prop where
  | none : IsPower []
  | some {lead ds : List Char} (hlead : IsPowerLead lead) (hds : IsDigits ds) : IsPower (lead ++ ds)

/-- The text of a number: digits, perhaps a point and more digits, perhaps an exponent. -/
def IsNumeral : List Char → Prop := Seq IsDigits (Seq IsPlaces IsPower)

theorem isDigits_run {d : Char} (hd : d.isDigit) (cs : List Char) : IsDigits (d :: cs.takeWhile Char.isDigit) :=
  ⟨List.cons_ne_nil _ _, fun c hc => (List.mem_cons.1 hc).elim (· ▸ hd)
    fun hc => List.all_eq_true.1 List.all_takeWhile c hc⟩

theorem longest_run {d : Char} (hd : d.isDigit) (cs : List Char) :
    Longest IsDigits (d :: cs) (d :: cs.takeWhile Char.isDigit) (cs.dropWhile Char.isDigit) where
  append := by rw [List.cons_append, List.takeWhile_append_dropWhile]
  mem := isDigits_run hd cs
  longest t ht hpre := by
    have := prefix_takeWhile ht.2 hpre
    rwa [List.takeWhile_cons_of_pos hd] at this

theorem IsDigits.not_prefix_cons {ds cs : List Char} {c : Char} (hds : IsDigits ds) (hc : ¬ c.isDigit) :
    ¬ ds <+: c :: cs := by
  obtain ⟨d, ds, rfl⟩ := List.exists_cons_of_ne_nil hds.1
  intro hpre
  exact hc ((List.cons_prefix_cons.1 hpre).1 ▸ hds.2 d (List.mem_cons_self ..))

theorem longest_fraction (cs : List Char) : Longest IsPlaces cs (fraction cs).1 (fraction cs).2 := by
  unfold fraction
  split
  · rename_i d cs
    split
    · rename_i hd
      have hrun := longest_run hd cs
      refine ⟨congrArg ('.' :: ·) hrun.append, .some hrun.mem, fun t ht hpre => ?_⟩
      cases ht with
      | none => exact List.nil_prefix
      | some hds => exact List.cons_prefix_cons.2 ⟨rfl, hrun.longest _ hds (List.cons_prefix_cons.1 hpre).2⟩
    · rename_i hd
      refine .nothing .none fun c t ht hpre => ?_
      cases ht with
      | some hds => exact hds.not_prefix_cons hd (List.cons_prefix_cons.1 hpre).2
  · rename_i hcs
    refine .nothing .none fun c t ht hpre => ?_
    cases ht with
    | some hds =>
      obtain ⟨d, ds, rfl⟩ := List.exists_cons_of_ne_nil hds.1
      obtain ⟨r, rfl⟩ := hpre
      exact hcs d (ds ++ r) rfl

theorem not_isDigit_of_sign {c : Char} (h : c = '+' ∨ c = '-') : ¬ c.isDigit := by
  rcases h with rfl | rfl <;> decide

/-- The digits behind the front of an exponent, if no other front of an exponent stands there. -/
theorem longest_exponentDigits {lead cs : List Char} (hlead : IsPowerLead lead)
    (honly : ∀ lead' ds, IsPowerLead lead' → IsDigits ds → lead' ++ ds <+: lead ++ cs → lead' = lead) :
    Longest IsPower (lead ++ cs) (exponentDigits lead cs).1 (exponentDigits lead cs).2 := by
  have hdigits : ∀ t, IsPower t → t <+: lead ++ cs → t = [] ∨ ∃ ds, t = lead ++ ds ∧ IsDigits ds ∧ ds <+: cs := by
    rintro _ (_ | ⟨hlead', hds⟩) hpre
    · exact .inl rfl
    · obtain rfl := honly _ _ hlead' hds hpre
      exact .inr ⟨_, rfl, hds, (List.prefix_append_right_inj _).1 hpre⟩
  unfold exponentDigits
  split
  · rename_i d cs
    split
    · rename_i hd
      have hrun := longest_run hd cs
      refine ⟨by rw [List.append_assoc, hrun.append], .some hlead hrun.mem, fun t ht hpre => ?_⟩
      rcases hdigits t ht hpre with rfl | ⟨ds, rfl, hds, hpre⟩
      · exact List.nil_prefix
      · exact (List.prefix_append_right_inj _).2 (hrun.longest ds hds hpre)
    · rename_i hd
      refine .nothing .none fun c t ht hpre => ?_
      obtain ⟨ds, -, hds, hpre⟩ := (hdigits _ ht hpre).resolve_left (List.cons_ne_nil c t)
      exact hds.not_prefix_cons hd hpre
  · refine .nothing .none fun c t ht hpre => ?_
    obtain ⟨ds, -, hds, hpre⟩ := (hdigits _ ht hpre).resolve_left (List.cons_ne_nil c t)
    exact hds.1 (List.prefix_nil.1 hpre)

/-- A sign behind the letter of an exponent belongs to it. -/
theorem powerLead_signed {e sign : Char} {lead ds cs : List Char} (hsign : sign = '+' ∨ sign = '-')
    (hlead : IsPowerLead lead) (hds : IsDigits ds) (hpre : lead ++ ds <+: e :: sign :: cs) : lead = [e, sign] := by
  cases hlead with
  | plain _ =>
    obtain ⟨-, hpre⟩ := List.cons_prefix_cons.1 hpre
    exact absurd hpre (hds.not_prefix_cons (not_isDigit_of_sign hsign))
  | signed _ _ =>
    obtain ⟨rfl, rfl, -⟩ := by simpa only [List.cons_append, List.cons_prefix_cons] using hpre
    rfl

theorem longest_exponent (cs : List Char) : Longest IsPower cs (exponent cs).1 (exponent cs).2 := by
  unfold exponent
  split
  · exact .nothing .none fun c t _ hpre => by simpa using List.prefix_nil.1 hpre
  · rename_i e cs
    split
    · rename_i he
      split
      · exact longest_exponentDigits (.signed he (.inl rfl)) fun _ _ hlead hds => powerLead_signed (.inl rfl) hlead hds
      · exact longest_exponentDigits (.signed he (.inr rfl)) fun _ _ hlead hds => powerLead_signed (.inr rfl) hlead hds
      · rename_i hplus hminus
        refine longest_exponentDigits (.plain he) fun lead ds hlead _ hpre => ?_
        cases hlead with
        | plain _ => rw [(List.cons_prefix_cons.1 hpre).1]
        | signed _ hsign =>
          obtain ⟨r, hr⟩ := (List.cons_prefix_cons.1 hpre).2
          rcases hsign with rfl | rfl
          · exact absurd hr.symm (hplus (ds ++ r))
          · exact absurd hr.symm (hminus (ds ++ r))
    · rename_i he
      refine .nothing .none fun c t ht hpre => ?_
      obtain ⟨rfl, -⟩ := List.cons_prefix_cons.1 hpre
      generalize hpower : c :: t = power at ht
      cases ht with
      | none => cases hpower
      | some hlead _ =>
        cases hlead with
        | plain he' => exact he ((List.cons.inj hpower).1 ▸ he')
        | signed he' _ => exact he ((List.cons.inj hpower).1 ▸ he')

theorem powerLetter {c : Char} {t : List Char} (h : IsPower (c :: t)) : c = 'e' ∨ c = 'E' := by
  generalize hpower : c :: t = power at h
  cases h with
  | none => cases hpower
  | some hlead _ =>
    cases hlead with
    | plain he => exact (List.cons.inj hpower).1 ▸ he
    | signed he _ => exact (List.cons.inj hpower).1 ▸ he

/-- The decimal places and the exponent of a number start with a point or a letter. -/
theorem not_isDigit_of_places_power {c : Char} {t : List Char} (h : Seq IsPlaces IsPower (c :: t)) :
    ¬ c.isDigit := by
  obtain ⟨places, power, hplaces, hpower, h⟩ := h
  cases hplaces with
  | some _ => exact (List.cons.inj h).1 ▸ by decide
  | none =>
    cases hpower with
    | none => cases h
    | some hlead _ =>
      cases hlead with
      | plain he => rcases he with rfl | rfl <;> exact (List.cons.inj h).1 ▸ by decide
      | signed he _ => rcases he with rfl | rfl <;> exact (List.cons.inj h).1 ▸ by decide

theorem IsPlaces.point_or_digit {t : List Char} (h : IsPlaces t) {c : Char} (hc : c ∈ t) : c = '.' ∨ c.isDigit := by
  cases h with
  | none => cases hc
  | some hds => exact (List.mem_cons.1 hc).imp id (hds.2 c)

/-- **A number is read as far as it goes.** -/
theorem longest_numeral {d : Char} (hd : d.isDigit) (cs : List Char) :
    Longest IsNumeral (d :: cs) (numeral d cs).1 (numeral d cs).2 := by
  have hwhole := longest_run hd cs
  have hplaces := longest_fraction (cs.dropWhile Char.isDigit)
  have hpower := longest_exponent (fraction (cs.dropWhile Char.isDigit)).2
  have htail := hplaces.seq hpower (fun _ _ => powerLetter) fun _ c _ _ ha hc => by
    have hmem := hplaces.mem.point_or_digit (c := c) (by simp [ha])
    rcases hc with rfl | rfl <;> exact absurd hmem (by decide)
  have hnumeral := hwhole.seq htail (fun _ _ => not_isDigit_of_places_power) fun _ c _ _ ha hc =>
    hc (hwhole.mem.2 c (by simp [ha]))
  rwa [← List.append_assoc] at hnumeral

/-! ### Strings -/

/-- The text between the quotes of a string, and what it stands for. -/
inductive Quoted (quote : Char) : List Char → List Char → Prop where
  | nil : Quoted quote [] []
  | plain {c : Char} {text value : List Char} (hquote : c ≠ quote) (hslash : c ≠ '\\') (hbreak : c ≠ '\n')
    (h : Quoted quote text value) : Quoted quote (c :: text) (c :: value)
  | escaped {c : Char} {text value : List Char} (hbreak : c ≠ '\n') (h : Quoted quote text value) :
    Quoted quote ('\\' :: c :: text) (unescape c :: value)

theorem quotation_of_quoted {quote : Char} {text value : List Char} (hquote : quote ≠ '\\')
    (h : Quoted quote text value) (rest : List Char) :
    quotation quote (text ++ quote :: rest) = ⟨text ++ [quote], value, true, rest⟩ := by
  induction h with
  | nil => simp [quotation, hquote]
  | plain hq hslash hbreak _ ih => simp [quotation, Quotation.after, hq, hslash, hbreak, ih]
  | escaped hbreak _ ih => simp [quotation, Quotation.after, hbreak, ih]

theorem quoted_of_quotation (quote : Char) (cs : List Char) (h : (quotation quote cs).closed) :
    ∃ text, Quoted quote text (quotation quote cs).value ∧ text ++ [quote] = (quotation quote cs).text := by
  fun_induction quotation quote cs with
  | case1 => cases h
  | case2 c rest hc ih =>
    obtain ⟨text, hquoted, htext⟩ := ih h
    exact ⟨_, .escaped hc hquoted, congrArg (['\\', c] ++ ·) htext⟩
  | case3 rest => exact ⟨[], .nil, rfl⟩
  | case4 => cases h
  | case5 c rest _ hquote hplain ih =>
    obtain ⟨text, hquoted, htext⟩ := ih h
    rw [not_or] at hplain
    exact ⟨_, .plain hquote hplain.2 hplain.1 hquoted, congrArg (c :: ·) htext⟩
  | case6 => cases h

theorem quotation_append (quote : Char) (cs : List Char) :
    (quotation quote cs).text ++ (quotation quote cs).rest = cs := by
  fun_induction quotation quote cs <;> simp_all [Quotation.after]

/-! ### Marks and words -/

theorem append_of_mark? {cs text rest : List Char} {m : Mark} (h : mark? cs = some (m, text, rest)) :
    m.lexeme.toList = text ∧ text ++ rest = cs := by
  unfold mark? at h
  split at h <;> cases h <;> exact ⟨rfl, rfl⟩

/-- A mark in front is read, or a longer one that starts with it. -/
theorem mark?_lexeme_append (m : Mark) (rest : List Char) :
    (mark? (m.lexeme.toList ++ rest)).any fun found => m.lexeme.toList.isPrefixOf found.2.1 := by
  cases m with
  | assign | equal | notEqual | bang | less | greater =>
    simp only [Mark.lexeme, String.reduceToList, List.cons_append, List.nil_append]
    unfold mark?
    split <;> first | rfl | grind
  | _ => rfl

theorem mark?_lexeme (m : Mark) : mark? m.lexeme.toList = some (m, m.lexeme.toList, []) := by
  cases m <;> rfl

/-- The text of an identifier: a letter, `_` or `$`, and then also digits; but no keyword. -/
def IsIdentifier (x : String) : Prop :=
  (∃ c cs, x.toList = c :: cs ∧ isNameStart c ∧ ∀ d ∈ cs, isNameChar d) ∧ ∀ k : Keyword, k.lexeme ≠ x

theorem Keyword.exists_lexeme (k : Keyword) :
    ∃ c cs, k.lexeme.toList = c :: cs ∧ isNameStart c ∧ ∀ d ∈ cs, isNameChar d := by
  cases k <;> exact ⟨_, _, rfl, by decide, List.all_eq_true.1 (by decide)⟩

theorem wordToken_lexeme (k : Keyword) : wordToken k.lexeme.toList = .keyword k := by
  cases k <;> rfl

theorem wordToken_of_isIdentifier {x : String} (h : IsIdentifier x) : wordToken x.toList = .identifier x := by
  have hnone : Keyword.ofLexeme? x = none := List.find?_eq_none.2 fun k _ => by simpa using h.2 k
  rw [wordToken, String.ofList_toList, hnone]

/-! ### Lexemes -/

/-- The texts of a token. -/
inductive Lexeme : Token → List Char → Prop where
  | keyword (k : Keyword) : Lexeme (.keyword k) k.lexeme.toList
  | mark (m : Mark) : Lexeme (.mark m) m.lexeme.toList
  | identifier {x : String} (h : IsIdentifier x) : Lexeme (.identifier x) x.toList
  | number {text : List Char} {x : Float} (h : IsNumeral text) (hx : Number.read? (String.ofList text) = some x) :
    Lexeme (.number x) text
  | string {quote : Char} {text value : List Char} (hquote : quote = '"' ∨ quote = '\'')
    (h : Quoted quote text value) : Lexeme (.string (String.ofList value)) (quote :: (text ++ [quote]))

/-- Whether the texts of a token start with a character like this one. -/
def Token.StartsWith (c : Char) : Token → Prop
  | .keyword _ => isNameStart c
  | .identifier _ => isNameStart c
  | .number _ => c.isDigit
  | .string _ => c = '"' ∨ c = '\''
  | .mark _ => ¬ isNameStart c ∧ ¬ c.isDigit ∧ ¬ (c = '"' ∨ c = '\'')

theorem Mark.exists_lexeme (m : Mark) : ∃ c cs, m.lexeme.toList = c :: cs ∧ (Token.mark m).StartsWith c := by
  cases m <;> exact ⟨_, _, rfl, by unfold Token.StartsWith; decide⟩

theorem Lexeme.exists_cons {token : Token} {text : List Char} (h : Lexeme token text) :
    ∃ c cs, text = c :: cs ∧ token.StartsWith c := by
  cases h with
  | keyword k =>
    obtain ⟨c, cs, hlexeme, hc, -⟩ := k.exists_lexeme
    exact ⟨c, cs, hlexeme, hc⟩
  | mark m => exact m.exists_lexeme
  | identifier hx =>
    obtain ⟨⟨c, cs, hx, hc, -⟩, -⟩ := hx
    exact ⟨c, cs, hx, hc⟩
  | number hnumeral _ =>
    obtain ⟨whole, tail, hwhole, -, rfl⟩ := hnumeral
    obtain ⟨d, ds, rfl⟩ := List.exists_cons_of_ne_nil hwhole.1
    exact ⟨d, ds ++ tail, rfl, hwhole.2 d (List.mem_cons_self ..)⟩
  | string hquote _ => exact ⟨_, _, rfl, hquote⟩

theorem Lexeme.startsWith {token : Token} {c : Char} {t : List Char} (h : Lexeme token (c :: t)) :
    token.StartsWith c := by
  obtain ⟨d, t', heq, hd⟩ := h.exists_cons
  obtain ⟨rfl, -⟩ := List.cons.inj heq
  exact hd

/-- Letters, digits and quotes are different characters. -/
theorem not_isDigit_of_isNameStart {c : Char} (h : isNameStart c) : ¬ c.isDigit := by
  have hstart : ((decide ('A'.val ≤ c.val ∧ c.val ≤ 'Z'.val)
    || decide ('a'.val ≤ c.val) && decide (c.val ≤ 'z'.val)) || c = '_' || c = '$') = true := h
  simp only [Bool.or_eq_true, Bool.and_eq_true, decide_eq_true_eq] at hstart
  rcases hstart with (hstart | rfl) | rfl
  · intro hdigit
    have hdigit : (decide ('0'.val ≤ c.val) && decide (c.val ≤ '9'.val)) = true := hdigit
    simp only [Bool.and_eq_true, decide_eq_true_eq] at hdigit
    grind
  · decide
  · decide

theorem not_quote_of_isNameChar {c : Char} (h : isNameChar c) : ¬ (c = '"' ∨ c = '\'') := by
  rintro (rfl | rfl) <;> exact absurd h (by decide)

theorem isNameChar_of_isDigit {c : Char} (h : c.isDigit) : isNameChar c := by simp [isNameChar, h]

theorem isNameChar_of_isNameStart {c : Char} (h : isNameStart c) : isNameChar c := by simp [isNameChar, h]

theorem Lexeme.eq_wordToken {token : Token} {c : Char} {t : List Char} (h : Lexeme token (c :: t))
    (hc : isNameStart c) : token = wordToken (c :: t) ∧ ∀ d ∈ t, isNameChar d := by
  have hstart := h.startsWith
  generalize htext : c :: t = text at h
  cases h with
  | keyword k =>
    obtain ⟨d, ds, hlexeme, -, hds⟩ := k.exists_lexeme
    exact ⟨(wordToken_lexeme k).symm, (List.cons.inj (htext.trans hlexeme)).2 ▸ hds⟩
  | identifier hx =>
    obtain ⟨d, ds, heq, -, hds⟩ := hx.1
    exact ⟨(wordToken_of_isIdentifier hx).symm, (List.cons.inj (htext.trans heq)).2 ▸ hds⟩
  | mark m => exact absurd hc hstart.1
  | number _ _ => exact absurd hstart (not_isDigit_of_isNameStart hc)
  | string _ _ => exact absurd hstart (not_quote_of_isNameChar (isNameChar_of_isNameStart hc))

theorem Lexeme.eq_number {token : Token} {c : Char} {t : List Char} (h : Lexeme token (c :: t)) (hc : c.isDigit) :
    IsNumeral (c :: t) ∧ ∃ x, Number.read? (String.ofList (c :: t)) = some x ∧ token = .number x := by
  have hstart := h.startsWith
  generalize htext : c :: t = text at h
  cases h with
  | number hnumeral hx =>
    subst htext
    exact ⟨hnumeral, _, hx, rfl⟩
  | keyword _ => exact absurd hc (not_isDigit_of_isNameStart hstart)
  | identifier _ => exact absurd hc (not_isDigit_of_isNameStart hstart)
  | mark _ => exact absurd hc hstart.2.1
  | string _ _ => exact absurd hstart (not_quote_of_isNameChar (isNameChar_of_isDigit hc))

theorem Lexeme.eq_string {token : Token} {c : Char} {t : List Char} (h : Lexeme token (c :: t))
    (hc : c = '"' ∨ c = '\'') :
    ∃ text value, Quoted c text value ∧ t = text ++ [c] ∧ token = .string (String.ofList value) := by
  have hstart := h.startsWith
  generalize htext : c :: t = all at h
  cases h with
  | string _ hquoted =>
    obtain ⟨rfl, rfl⟩ := List.cons.inj htext
    exact ⟨_, _, hquoted, rfl, rfl⟩
  | keyword _ => exact absurd hc (not_quote_of_isNameChar (isNameChar_of_isNameStart hstart))
  | identifier _ => exact absurd hc (not_quote_of_isNameChar (isNameChar_of_isNameStart hstart))
  | number _ _ => exact absurd hc (not_quote_of_isNameChar (isNameChar_of_isDigit hstart))
  | mark _ => exact absurd hc hstart.2.2

theorem Lexeme.eq_mark {token : Token} {c : Char} {t : List Char} (h : Lexeme token (c :: t))
    (hname : ¬ isNameStart c) (hdigit : ¬ c.isDigit) (hquote : ¬ (c = '"' ∨ c = '\'')) :
    ∃ m : Mark, token = .mark m ∧ m.lexeme.toList = c :: t := by
  have hstart := h.startsWith
  generalize htext : c :: t = text at h
  cases h with
  | mark m => exact ⟨m, rfl, rfl⟩
  | keyword _ => exact absurd hstart hname
  | identifier _ => exact absurd hstart hname
  | number _ _ => exact absurd hstart hdigit
  | string _ _ => exact absurd hstart hquote

theorem ne_slash_of_quote {c : Char} (h : c = '"' ∨ c = '\'') : c ≠ '\\' := by
  rcases h with rfl | rfl <;> decide

/-- **A text belongs to one token only.** -/
theorem Lexeme.unique {token token' : Token} {text : List Char} (h : Lexeme token text) (h' : Lexeme token' text) :
    token = token' := by
  obtain ⟨c, t, rfl, -⟩ := h.exists_cons
  by_cases hname : isNameStart c
  · exact (h.eq_wordToken hname).1.trans (h'.eq_wordToken hname).1.symm
  by_cases hdigit : c.isDigit
  · obtain ⟨-, x, hx, rfl⟩ := h.eq_number hdigit
    obtain ⟨-, y, hy, rfl⟩ := h'.eq_number hdigit
    rw [Option.some.inj (hx.symm.trans hy)]
  by_cases hquote : c = '"' ∨ c = '\''
  · obtain ⟨body, value, hvalue, ht, rfl⟩ := h.eq_string hquote
    obtain ⟨body', value', hvalue', ht', rfl⟩ := h'.eq_string hquote
    have hread := quotation_of_quoted (ne_slash_of_quote hquote) hvalue []
    rw [← ht, ht', quotation_of_quoted (ne_slash_of_quote hquote) hvalue' []] at hread
    rw [(Quotation.mk.inj hread).2.1]
  · obtain ⟨m, rfl, hm⟩ := h.eq_mark hname hdigit hquote
    obtain ⟨m', rfl, hm'⟩ := h'.eq_mark hname hdigit hquote
    have hread := mark?_lexeme m
    rw [hm, ← hm', mark?_lexeme m'] at hread
    rw [(Prod.mk.inj (Option.some.inj hread)).1]

/-! ### Characters of lexemes -/

theorem mem_of_isSourceBlank {c : Char} (h : isSourceBlank c) : c ∈ [' ', '\t', '\r', '\n', '\x0c'] := by
  have hfeed : c.toNat = 12 → c = '\x0c' := fun hc => Char.ext (UInt32.toNat_inj.1 hc)
  simp only [isSourceBlank, Bool.or_eq_true, decide_eq_true_eq] at h
  simp only [List.mem_cons, List.not_mem_nil, or_false]
  tauto

theorem not_blank_of_isNameChar {c : Char} (h : isNameChar c) : ¬ isSourceBlank c := by
  intro hblank
  have hall : [' ', '\t', '\r', '\n', '\x0c'].all (! isNameChar ·) := by decide
  simpa [h] using List.all_eq_true.1 hall c (mem_of_isSourceBlank hblank)

theorem IsPower.mem {power : List Char} (h : IsPower power) {c : Char} (hc : c ∈ power) :
    c.isDigit ∨ c ∈ ['e', 'E', '+', '-'] := by
  cases h with
  | none => cases hc
  | some hlead hds =>
    rcases List.mem_append.1 hc with hc | hc
    · right
      cases hlead with
      | plain he =>
        obtain rfl := List.mem_singleton.1 hc
        rcases he with rfl | rfl <;> decide
      | signed he hsign =>
        rcases List.mem_cons.1 hc with rfl | hc
        · rcases he with rfl | rfl <;> decide
        · obtain rfl := List.mem_singleton.1 hc
          rcases hsign with rfl | rfl <;> decide
    · exact .inl (hds.2 c hc)

theorem IsNumeral.mem (h : IsNumeral text) {c : Char} (hc : c ∈ text) : c.isDigit ∨ c ∈ ['.', 'e', 'E', '+', '-'] := by
  obtain ⟨whole, tail, hwhole, ⟨places, power, hplaces, hpower, rfl⟩, rfl⟩ := h
  rcases List.mem_append.1 hc with hc | hc
  · exact .inl (hwhole.2 c hc)
  rcases List.mem_append.1 hc with hc | hc
  · rcases hplaces.point_or_digit hc with rfl | hdigit
    · exact .inr (by decide)
    · exact .inl hdigit
  · exact (hpower.mem hc).imp id (List.mem_cons_of_mem '.')

/-- A lexeme with a blank in it is a string. -/
theorem Lexeme.exists_string_of_blank {token : Token} (h : Lexeme token text) {c : Char} (hc : c ∈ text)
    (hblank : isSourceBlank c) : ∃ s, token = .string s := by
  have hword : ∀ d ds, isNameStart d → (∀ e ∈ ds, isNameChar e) → text = d :: ds → False := by
    rintro d ds hd hds rfl
    refine not_blank_of_isNameChar ?_ hblank
    exact (List.mem_cons.1 hc).elim (fun heq => heq ▸ isNameChar_of_isNameStart hd) (hds c)
  cases h with
  | keyword k =>
    obtain ⟨d, ds, hlexeme, hd, hds⟩ := k.exists_lexeme
    exact (hword d ds hd hds hlexeme).elim
  | identifier hx =>
    obtain ⟨⟨d, ds, hx, hd, hds⟩, -⟩ := hx
    exact (hword d ds hd hds hx).elim
  | mark m =>
    have hmark : m.lexeme.toList.all (! isSourceBlank ·) := by cases m <;> decide
    simpa [hblank] using List.all_eq_true.1 hmark c hc
  | number hnumeral _ =>
    have hpart : ['.', 'e', 'E', '+', '-'].all (! isSourceBlank ·) := by decide
    rcases hnumeral.mem hc with hdigit | hpart'
    · exact absurd hblank (not_blank_of_isNameChar (isNameChar_of_isDigit hdigit))
    · simpa [hblank] using List.all_eq_true.1 hpart c hpart'
  | string _ _ => exact ⟨_, rfl⟩

theorem Quoted.not_mem_break {quote : Char} {value : List Char} (h : Quoted quote text value) : '\n' ∉ text := by
  induction h with
  | nil => exact List.not_mem_nil
  | plain _ _ hbreak _ ih => exact fun hmem => (List.mem_cons.1 hmem).elim (fun heq => hbreak heq.symm) ih
  | escaped hbreak _ ih =>
    intro hmem
    rcases List.mem_cons.1 hmem with heq | hmem
    · exact absurd heq (by decide)
    · exact (List.mem_cons.1 hmem).elim (fun heq => hbreak heq.symm) ih

/-- **No lexeme goes over a line break.** -/
theorem Lexeme.not_mem_break {token : Token} (h : Lexeme token text) : '\n' ∉ text := by
  intro hmem
  obtain ⟨s, rfl⟩ := h.exists_string_of_blank hmem (by decide)
  obtain ⟨c, t, rfl, hc⟩ := h.exists_cons
  obtain ⟨body, value, hquoted, rfl, -⟩ := h.eq_string hc
  have hquote : '\n' ≠ c := by rcases hc with rfl | rfl <;> decide
  simp only [List.mem_cons, List.mem_append, List.not_mem_nil, or_false, hquote, false_or] at hmem
  exact hquoted.not_mem_break hmem

/-! ### The front of a source -/

/-- The texts of all tokens. -/
def IsLexeme (text : List Char) : Prop := ∃ token, Lexeme token text

theorem takeWhile_append_stop {ds rest : List Char} (hds : ∀ c ∈ ds, p c) (hrest : ∀ c t, rest = c :: t → ¬ p c) :
    (ds ++ rest).takeWhile p = ds ∧ (ds ++ rest).dropWhile p = rest := by
  rw [List.takeWhile_append_of_pos hds, List.dropWhile_append_of_pos hds]
  cases rest with
  | nil => simp
  | cons c t => simp [hrest c t rfl]

theorem isSome_readExponent? {power : List Char} (h : IsPower power) : (Number.readExponent? power).isSome := by
  cases h with
  | none => rfl
  | @some lead ds hlead hds =>
    have hall : ds.all Char.isDigit = true := List.all_eq_true.2 hds.2
    have hempty : ds.isEmpty = false := by simpa using hds.1
    obtain ⟨d, ds, rfl⟩ := List.exists_cons_of_ne_nil hds.1
    have hd := hds.2 d (List.mem_cons_self ..)
    cases hlead with
    | plain he =>
      have hplus : d ≠ '+' := fun heq => not_isDigit_of_sign (.inl heq) hd
      have hminus : d ≠ '-' := fun heq => not_isDigit_of_sign (.inr heq) hd
      simp [Number.readExponent?, he, hplus, hminus, hall]
    | signed he hsign =>
      rcases hsign with rfl | rfl <;> simp [Number.readExponent?, he, hall]

theorem ne_point_of_isPower {power : List Char} (h : IsPower power) (t : List Char) : power ≠ '.' :: t := by
  rintro rfl
  exact absurd (powerLetter h) (by decide)

theorem isSome_readUnsigned? {text : List Char} (h : IsNumeral text) : (Number.readUnsigned? text).isSome := by
  obtain ⟨whole, tail, hwhole, htail, rfl⟩ := h
  have hempty : whole.isEmpty = false := by simpa using hwhole.1
  have hrun : (whole ++ tail).takeWhile Char.isDigit = whole ∧ (whole ++ tail).dropWhile Char.isDigit = tail :=
    takeWhile_append_stop hwhole.2 fun c t heq => not_isDigit_of_places_power (heq ▸ htail)
  unfold Number.readUnsigned?
  simp only [hrun, hempty, Bool.false_and, Bool.false_eq_true, if_false, Option.isSome_map]
  obtain ⟨places, power, hplaces, hpower, rfl⟩ := htail
  cases hplaces with
  | none =>
    have hpoint := ne_point_of_isPower hpower
    rw [List.nil_append]
    split
    · exact absurd rfl (hpoint _)
    · exact isSome_readExponent? hpower
  | @some ds hds =>
    have hplaces : (ds ++ power).takeWhile Char.isDigit = ds ∧ (ds ++ power).dropWhile Char.isDigit = power :=
      takeWhile_append_stop hds.2 fun c t heq => by rcases powerLetter (heq ▸ hpower) with rfl | rfl <;> decide
    simpa only [List.cons_append, hplaces] using isSome_readExponent? hpower

/-- **Every number can be read.** -/
theorem read?_of_isNumeral {text : List Char} (h : IsNumeral text) :
    ∃ x, Number.read? (String.ofList text) = some x := by
  obtain ⟨x, hx⟩ := Option.isSome_iff_exists.1 (isSome_readUnsigned? h)
  obtain ⟨whole, tail, hwhole, htail, rfl⟩ := h
  obtain ⟨d, ds, rfl⟩ := List.exists_cons_of_ne_nil hwhole.1
  have hd := hwhole.2 d (List.mem_cons_self ..)
  have hplus : d ≠ '+' := fun heq => not_isDigit_of_sign (.inl heq) hd
  have hminus : d ≠ '-' := fun heq => not_isDigit_of_sign (.inr heq) hd
  rw [List.cons_append] at hx
  exact ⟨x, by simp [Number.read?, hplus, hminus, hx]⟩

theorem lexeme_wordToken {c : Char} {cs : List Char} (hc : isNameStart c) (hcs : ∀ d ∈ cs, isNameChar d) :
    Lexeme (wordToken (c :: cs)) (c :: cs) := by
  unfold wordToken
  split
  · rename_i k hk
    have hlexeme : k.lexeme = String.ofList (c :: cs) := by
      simpa using List.find?_some (show List.find? _ _ = _ from hk)
    have hkeyword := Lexeme.keyword k
    rwa [hlexeme, String.toList_ofList] at hkeyword
  · rename_i hnone
    have := Lexeme.identifier (x := String.ofList (c :: cs))
      ⟨⟨c, cs, String.toList_ofList, hc, hcs⟩, fun k hk =>
        absurd (decide_eq_true hk) (List.find?_eq_none.1 hnone k (by cases k <;> decide))⟩
    rwa [String.toList_ofList] at this

/-- What is found at the front of `cs` is right: the token and its text fit together and no longer text of a token
stands there, or there is none and the text that is reported is not empty. -/
def Front.Fits (cs : List Char) : Front → Prop
  | .lexeme token text rest => Lexeme token text ∧ Longest IsLexeme cs text rest
  | .broken text => text ≠ [] ∧ text <+: cs ∧ ∀ t, IsLexeme t → ¬ t <+: cs

/-- A lexeme that starts with `c` fits if all others that start with `c` stand in front of it. -/
theorem fits_lexeme {c : Char} {token : Token} (hlexeme : Lexeme token text) (happend : text ++ rest = c :: cs)
    (hlongest : ∀ token t, Lexeme token (c :: t) → c :: t <+: c :: cs → c :: t <+: text) :
    (Front.lexeme token text rest).Fits (c :: cs) := by
  refine ⟨hlexeme, happend, ⟨token, hlexeme⟩, ?_⟩
  rintro t ⟨token, ht⟩ hpre
  obtain ⟨d, t, rfl, -⟩ := ht.exists_cons
  obtain ⟨rfl, -⟩ := List.cons_prefix_cons.1 hpre
  exact hlongest token t ht hpre

theorem fits_broken {c : Char} (hne : text ≠ []) (hpre : text <+: c :: cs)
    (hnone : ∀ token t, Lexeme token (c :: t) → ¬ c :: t <+: c :: cs) : (Front.broken text).Fits (c :: cs) := by
  refine ⟨hne, hpre, ?_⟩
  rintro t ⟨token, ht⟩ hpre
  obtain ⟨d, t, rfl, -⟩ := ht.exists_cons
  obtain ⟨rfl, -⟩ := List.cons_prefix_cons.1 hpre
  exact hnone token t ht hpre

theorem fits_front_word {c : Char} (hc : isNameStart c) (cs : List Char) : (front c cs).Fits (c :: cs) := by
  rw [front, if_pos hc]
  refine fits_lexeme (lexeme_wordToken hc fun d hd => List.all_eq_true.1 List.all_takeWhile d hd) ?_
    fun token t ht hpre => ?_
  · rw [List.cons_append, List.takeWhile_append_dropWhile]
  · exact List.cons_prefix_cons.2
      ⟨rfl, prefix_takeWhile (ht.eq_wordToken hc).2 (List.cons_prefix_cons.1 hpre).2⟩

theorem fits_front_number {c : Char} (hname : ¬ isNameStart c) (hc : c.isDigit) (cs : List Char) :
    (front c cs).Fits (c :: cs) := by
  have hnumeral := longest_numeral hc cs
  obtain ⟨x, hx⟩ := read?_of_isNumeral hnumeral.mem
  rw [front, if_neg hname, if_pos hc]
  simp only [hx]
  exact fits_lexeme (.number hnumeral.mem hx) hnumeral.append fun token t ht hpre =>
    hnumeral.longest _ (ht.eq_number hc).1 hpre

theorem fits_front_string {c : Char} (hname : ¬ isNameStart c) (hdigit : ¬ c.isDigit) (hc : c = '"' ∨ c = '\'')
    (cs : List Char) : (front c cs).Fits (c :: cs) := by
  have hread : ∀ token t, Lexeme token (c :: t) → c :: t <+: c :: cs →
      (quotation c cs).closed ∧ (quotation c cs).text = t := by
    intro token t ht hpre
    obtain ⟨body, value, hquoted, rfl, -⟩ := ht.eq_string hc
    obtain ⟨rest, rfl⟩ := (List.cons_prefix_cons.1 hpre).2
    rw [List.append_assoc, List.singleton_append, quotation_of_quoted (ne_slash_of_quote hc) hquoted]
    exact ⟨rfl, rfl⟩
  have happend : c :: (quotation c cs).text ++ (quotation c cs).rest = c :: cs :=
    congrArg (c :: ·) (quotation_append c cs)
  rw [front, if_neg hname, if_neg hdigit, if_pos hc]
  dsimp only
  split
  · rename_i hclosed
    obtain ⟨body, hquoted, htext⟩ := quoted_of_quotation c cs hclosed
    refine fits_lexeme (htext ▸ .string hc hquoted) happend fun token t ht hpre => ?_
    exact (hread token t ht hpre).2 ▸ List.prefix_rfl
  · rename_i hopen
    exact fits_broken (List.cons_ne_nil _ _) ⟨_, happend⟩ fun token t ht hpre => hopen (hread token t ht hpre).1

theorem fits_front_mark {c : Char} (hname : ¬ isNameStart c) (hdigit : ¬ c.isDigit) (hquote : ¬ (c = '"' ∨ c = '\''))
    (cs : List Char) : (front c cs).Fits (c :: cs) := by
  have hread : ∀ token t, Lexeme token (c :: t) → c :: t <+: c :: cs →
      ∃ m text rest, mark? (c :: cs) = some (m, text, rest) ∧ c :: t <+: text := by
    intro token t ht hpre
    obtain ⟨m, rfl, hm⟩ := ht.eq_mark hname hdigit hquote
    obtain ⟨rest, hrest⟩ := hpre
    have hany := mark?_lexeme_append m rest
    rw [hm, hrest] at hany
    obtain ⟨⟨m, text, rest⟩, hmark, htext⟩ := Option.any_eq_true .. |>.1 hany
    exact ⟨m, text, rest, hmark, List.isPrefixOf_iff_prefix.1 htext⟩
  rw [front, if_neg hname, if_neg hdigit, if_neg hquote]
  cases hmark : mark? (c :: cs) with
  | some found =>
    obtain ⟨m, text, rest⟩ := found
    obtain ⟨rfl, happend⟩ := append_of_mark? hmark
    refine fits_lexeme (.mark m) happend fun token t ht hpre => ?_
    obtain ⟨m', text', rest', hmark', htext⟩ := hread token t ht hpre
    obtain ⟨rfl, rfl, rfl⟩ : m = m' ∧ m.lexeme.toList = text' ∧ rest = rest' := by simpa [hmark] using hmark'
    exact htext
  | none =>
    refine fits_broken (List.cons_ne_nil _ _) ⟨cs, rfl⟩ fun token t ht hpre => ?_
    obtain ⟨m, text, rest, hmark', -⟩ := hread token t ht hpre
    rw [hmark] at hmark'
    cases hmark'

/-- **The longest lexeme at the front is read.** -/
theorem fits_front (c : Char) (cs : List Char) : (front c cs).Fits (c :: cs) := by
  by_cases hname : isNameStart c
  · exact fits_front_word hname cs
  by_cases hdigit : c.isDigit
  · exact fits_front_number hname hdigit cs
  by_cases hquote : c = '"' ∨ c = '\''
  · exact fits_front_string hname hdigit hquote cs
  · exact fits_front_mark hname hdigit hquote cs

/-- **What is read is exactly the longest lexeme.** -/
theorem front_eq_lexeme_iff {c : Char} {token : Token} :
    front c cs = .lexeme token text rest ↔ Lexeme token text ∧ Longest IsLexeme (c :: cs) text rest := by
  have hfits := fits_front c cs
  constructor
  · intro h
    rwa [h] at hfits
  · rintro ⟨hlexeme, hlongest⟩
    cases hfront : front c cs with
    | lexeme token' text' rest' =>
      rw [hfront] at hfits
      obtain ⟨rfl, rfl⟩ := hfits.2.unique hlongest
      rw [hfits.1.unique hlexeme]
    | broken text' =>
      rw [hfront] at hfits
      exact absurd ⟨rest, hlongest.append⟩ (hfits.2.2 text ⟨token, hlexeme⟩)

end Syntax
end ScriptImport
