/-
# Written tokens are read back

Tokens are written as their texts with a blank between them.  A string is written between quotes of either kind, with
its quote, backslashes and line breaks escaped, and a number is written in any way that its grammar allows.  Written
like this, tokens do not run into one another: a lexeme with a blank in it is a string, and a string ends with the
first quote that is not escaped (`prefix_of_blank`).  So they are read back as they were, whatever the strings hold
(`tokenize_written`).
-/

import ScriptImport.Proofs.Syntax.Tiling

namespace ScriptImport
namespace Syntax

/-- How a character of a string is written between quotes. -/
def escape (quote c : Char) : List Char :=
  if c = quote ∨ c = '\\' then ['\\', c] else if c = '\n' then ['\\', 'n'] else [c]

/-- A string between quotes. -/
def quoted (quote : Char) (s : String) : List Char := quote :: (s.toList.flatMap (escape quote) ++ [quote])

/-- Whether a text is how a token is written. -/
def Token.IsWritten : Token → List Char → Prop
  | .keyword k, text => text = k.lexeme.toList
  | .mark m, text => text = m.lexeme.toList
  | .identifier x, text => IsIdentifier x ∧ text = x.toList
  | .number x, text => IsNumeral text ∧ Number.read? (String.ofList text) = some x
  | .string s, text => ∃ quote, (quote = '"' ∨ quote = '\'') ∧ text = quoted quote s

variable {text : List Char} {token : Token}

theorem quoted_escape {quote : Char} (hquote : quote = '"' ∨ quote = '\'') (value : List Char) :
    Quoted quote (value.flatMap (escape quote)) value := by
  have hself : ∀ c, c = quote ∨ c = '\\' → c ≠ '\n' ∧ unescape c = c := by
    rcases hquote with rfl | rfl <;> rintro c (rfl | rfl) <;> decide
  induction value with
  | nil => exact .nil
  | cons c value ih =>
    rw [List.flatMap_cons, escape]
    split
    · rename_i hc
      obtain ⟨hbreak, hunescape⟩ := hself c hc
      have hescaped := Quoted.escaped hbreak ih
      rwa [hunescape] at hescaped
    · rename_i hc
      rw [not_or] at hc
      split
      · rename_i hbreak
        obtain rfl := hbreak
        exact .escaped (by decide) ih
      · rename_i hbreak
        exact .plain hc.1 hc.2 hbreak ih

theorem Token.IsWritten.lexeme (h : token.IsWritten text) : Lexeme token text := by
  cases token with
  | keyword k => exact h ▸ .keyword k
  | mark m => exact h ▸ .mark m
  | identifier x => exact h.2 ▸ .identifier h.1
  | number x => exact .number h.1 h.2
  | string s =>
    obtain ⟨quote, hquote, rfl⟩ := h
    have hlexeme := Lexeme.string hquote (quoted_escape hquote s.toList)
    rwa [String.ofList_toList] at hlexeme

/-- **A blank behind a lexeme ends it.** -/
theorem prefix_of_blank (h : Lexeme token text) (rest : List Char) :
    ∀ t, IsLexeme t → t <+: text ++ ' ' :: rest → t <+: text := by
  rintro t ⟨token', ht⟩ hpre
  by_contra hlonger
  obtain ⟨more, rfl⟩ : ∃ more, text ++ ' ' :: more = t := by
    have htext : text <+: t := (List.prefix_or_prefix_of_prefix hpre (List.prefix_append ..)).resolve_left hlonger
    obtain ⟨more, rfl⟩ := htext
    cases more with
    | nil => simp at hlonger
    | cons c more =>
      rw [List.prefix_append_right_inj] at hpre
      exact ⟨more, by rw [(List.cons_prefix_cons.1 hpre).1]⟩
  -- With a blank in it, `t` is a string, and so is what it starts with.
  obtain ⟨s, rfl⟩ := ht.exists_string_of_blank (c := ' ') (by simp) (by decide)
  obtain ⟨c, tail, rfl, -⟩ := h.exists_cons
  have hc : c = '"' ∨ c = '\'' := ht.startsWith
  obtain ⟨body, value, hquoted, rfl, -⟩ := h.eq_string hc
  obtain ⟨body', value', hquoted', heq, -⟩ := ht.eq_string hc
  have hends : body ++ c :: ' ' :: more = body' ++ [c] := by simpa using heq
  have hread := quotation_of_quoted (ne_slash_of_quote hc) hquoted' []
  rw [← hends, quotation_of_quoted (ne_slash_of_quote hc) hquoted] at hread
  cases congrArg Quotation.rest hread

theorem scan_lexeme_blank (h : Lexeme token text) (p : Position) (rest : List Char) :
    scan p (text ++ ' ' :: rest) =
      (scan ((p.afterAll text).after ' ') rest).map (⟨token, p.span text⟩ :: ·) := by
  have hgap : gap? (text ++ ' ' :: rest) = none := gap?_lexeme_append h (by rintro c t heq; cases heq; decide)
  have hlongest := prefix_of_blank h rest
  obtain ⟨c, t, rfl, -⟩ := h.exists_cons
  rw [List.cons_append] at hgap hlongest ⊢
  rw [scan_front hgap (front_eq_lexeme_iff.2 ⟨h, rfl, ⟨token, h⟩, hlongest⟩), scan_blank (by decide)]

theorem scan_written (items : List (Token × String)) (h : ∀ i ∈ items, Lexeme i.1 i.2.toList) (p : Position) :
    ∃ ts, scan p (" ".intercalate (items.map (·.2))).toList = .ok ts ∧ ts.map (·.token) = items.map (·.1) := by
  rw [String.toList_intercalate, List.map_map, show " ".toList = [' '] from rfl]
  induction items generalizing p with
  | nil => exact ⟨[], by simp [scan], rfl⟩
  | cons i items ih =>
    obtain ⟨hi, hitems⟩ := List.forall_mem_cons.1 h
    cases items with
    | nil => exact ⟨_, by simpa using scan_of_lexeme hi p, rfl⟩
    | cons j items =>
      obtain ⟨ts, hscan, htokens⟩ := ih hitems ((p.afterAll i.2.toList).after ' ')
      refine ⟨⟨i.1, p.span i.2.toList⟩ :: ts, ?_, congrArg (i.1 :: ·) htokens⟩
      rw [List.map_cons, List.map_cons, List.intercalate_cons_cons, ← List.map_cons, List.append_assoc,
        List.singleton_append]
      exact (scan_lexeme_blank hi p _).trans (by rw [hscan]; rfl)

/-- **Written tokens are read back.**  Tokens that are written with single blanks between them are read as these
tokens, whatever the texts of their strings are and however their numbers are written. -/
theorem tokenize_written (items : List (Token × String)) (h : ∀ i ∈ items, i.1.IsWritten i.2.toList) :
    ∃ t, tokenize (" ".intercalate (items.map (·.2))) = .ok t ∧ t.tokens.map (·.token) = items.map (·.1) := by
  obtain ⟨ts, hscan, htokens⟩ := scan_written items (fun i hi => (h i hi).lexeme) .start
  rw [tokenize, hscan]
  exact ⟨_, rfl, htokens⟩

/-- A string that holds comment openers, its quote, a backslash, a line break and characters beyond ASCII, between
marks that would open a comment without blanks and a number with an exponent. -/
theorem tokenize_written_string :
    let items : List (Token × String) :=
      [(.mark .slash, "/"), (.mark .star, "*"), (.string "/* '\\\n\x00é", "'/* \\'\\\\\\n\x00é'"),
        (.number 100, "10.0e+1"), (.keyword .typeofWord, "typeof"), (.identifier "e", "e")]
    (∀ i ∈ items, i.1.IsWritten i.2.toList) ∧
      ∃ t, tokenize (" ".intercalate (items.map (·.2))) = .ok t ∧ t.tokens.map (·.token) = items.map (·.1) := by
  intro items
  have hpower : IsPower (['e', '+'] ++ ['1']) := .some (.signed (.inl rfl) (.inl rfl)) (by decide)
  have hnumeral : IsNumeral "10.0e+1".toList :=
    ⟨['1', '0'], ['.', '0', 'e', '+', '1'], by decide, ⟨['.', '0'], ['e', '+', '1'], .some (by decide), hpower, rfl⟩,
      rfl⟩
  have hidentifier : IsIdentifier "e" := ⟨⟨'e', [], rfl, by decide, nofun⟩, fun k => by cases k <;> decide⟩
  have h : ∀ i ∈ items, i.1.IsWritten i.2.toList := by
    simp only [items, List.forall_mem_cons]
    exact ⟨rfl, rfl, ⟨'\'', .inr rfl, by decide⟩, ⟨hnumeral, rfl⟩, rfl, ⟨hidentifier, rfl⟩, nofun⟩
  exact ⟨h, tokenize_written items h⟩

end Syntax
end ScriptImport
