/-
# Tokens and gaps tile a source

A source is a row of gaps and of texts of tokens.  `Tiles read cs ts rest` says so of what stands in front of `rest`:
no gap stands where a token does and no longer lexeme, the token's own text is cut into it alone, and its span is the
`place` of that text, which only counts what stands in front of it.  So there is one tiling at most, and it is what a
scan finds: each step of the scan adds a gap or a token in front of a tiling (`tiled_scan`), and a scan of what is
tiled gives the tokens of the tiling (`Tiles.exists_scan`).  That a source is tiled up to its end or up to the text
that is reported is `tokenize_tiles`.
-/

import Mathlib.Data.List.Induction
import ScriptImport.Proofs.Syntax.Lexemes

namespace ScriptImport
namespace Syntax

variable {cs text next rest : List Char}

/-! ### Places -/

/-- How many bytes a text has. -/
def bytes (cs : List Char) : Nat := (String.ofList cs).utf8ByteSize

@[simp] theorem bytes_nil : bytes [] = 0 := rfl

@[simp] theorem bytes_append (a b : List Char) : bytes (a ++ b) = bytes a + bytes b := by
  rw [bytes, String.ofList_append, String.utf8ByteSize_append, bytes, bytes]

@[simp] theorem bytes_singleton (c : Char) : bytes [c] = c.utf8Size := by
  rw [bytes, ← String.singleton_eq_ofList, String.utf8ByteSize_singleton]

@[simp] theorem bytes_cons (c : Char) (cs : List Char) : bytes (c :: cs) = c.utf8Size + bytes cs := by
  rw [← List.singleton_append, bytes_append, bytes_singleton]

/-- What stands behind the last line break of a text. -/
def lastLine (cs : List Char) : List Char := (cs.reverse.takeWhile (· != '\n')).reverse

/-- Where a text stands that follows `read`: between the bytes in front of it and behind it, in the line behind the
line breaks in front, and in the column behind the bytes of that line.  Lines and columns are counted in words of 32
bits (`toNat_place`). -/
def place (read text : List Char) : Span :=
  ⟨bytes read, bytes (read ++ text), UInt32.ofNat (1 + read.count '\n'), UInt32.ofNat (1 + bytes (lastLine read))⟩

theorem Position.afterAll_append (p : Position) (a b : List Char) :
    p.afterAll (a ++ b) = (p.afterAll a).afterAll b := List.foldl_append

theorem lastLine_concat (cs : List Char) (c : Char) :
    lastLine (cs ++ [c]) = if c = '\n' then [] else lastLine cs ++ [c] := by
  unfold lastLine
  rw [List.reverse_concat]
  by_cases hc : c = '\n' <;> simp [hc]

theorem start_afterAll (read : List Char) :
    Position.start.afterAll read =
      ⟨bytes read, UInt32.ofNat (1 + read.count '\n'), UInt32.ofNat (1 + bytes (lastLine read))⟩ := by
  induction read using List.reverseRecOn with
  | nil => rfl
  | append_singleton cs c ih =>
    rw [Position.afterAll_append, ih, lastLine_concat]
    by_cases hc : c = '\n'
    · subst hc
      simp [Position.afterAll, Position.after, UInt32.add_assoc, show '\n'.utf8Size = 1 from rfl]
    · simp [Position.afterAll, Position.after, hc, UInt32.add_assoc]

theorem span_start (read text : List Char) : (Position.start.afterAll read).span text = place read text := by
  rw [Position.span, ← Position.afterAll_append, start_afterAll, start_afterAll, place]

theorem count_le_bytes (c : Char) (cs : List Char) : cs.count c ≤ bytes cs := by
  induction cs with
  | nil => exact Nat.le_refl 0
  | cons d cs ih =>
    have := d.utf8Size_pos
    rw [List.count_cons, bytes_cons]
    split <;> omega

theorem bytes_lastLine_le (cs : List Char) : bytes (lastLine cs) ≤ bytes cs := by
  have hsplit : (cs.reverse.dropWhile (· != '\n')).reverse ++ lastLine cs = cs := by
    rw [lastLine, ← List.reverse_append, List.takeWhile_append_dropWhile, List.reverse_reverse]
  have := congrArg bytes hsplit
  rw [bytes_append] at this
  omega

/-- Lines and columns do not start again in a source of less than 4 GiB. -/
theorem toNat_place {read : List Char} (h : bytes read + 1 < UInt32.size) (text : List Char) :
    (place read text).line.toNat = 1 + read.count '\n' ∧
      (place read text).column.toNat = 1 + bytes (lastLine read) := by
  have hlines := count_le_bytes '\n' read
  have hcolumns := bytes_lastLine_le read
  exact ⟨UInt32.toNat_ofNat_of_lt' (by omega), UInt32.toNat_ofNat_of_lt' (by omega)⟩

/-! ### Gaps -/

/-- A run of blanks, a comment that goes up to the end of its line, or a comment up to `*/`, which the end of the
source may close, in front of `next`. -/
inductive Gap : List Char → List Char → Prop where
  | blanks {text next : List Char} (hne : text ≠ []) (h : ∀ c ∈ text, isSourceBlank c) : Gap text next
  | lineComment {text next : List Char} (h : '\n' ∉ text) (hstop : ∀ c t, next = c :: t → c = '\n') :
    Gap ('/' :: '/' :: text) next
  | blockComment {text next : List Char} (h : ¬ ['*', '/'] <:+: text) : Gap ('/' :: '*' :: (text ++ ['*', '/'])) next
  | openComment {text : List Char} (h : ¬ ['*', '/'] <:+: text) : Gap ('/' :: '*' :: text) []

theorem blockComment_close (h : ¬ ['*', '/'] <:+: text) (next : List Char) :
    blockComment (text ++ '*' :: '/' :: next) = (text ++ ['*', '/'], next) := by
  induction text with
  | nil => rfl
  | cons c text ih =>
    rw [List.infix_cons_iff, not_or] at h
    have hopen : ∀ r, c = '*' → text ++ '*' :: '/' :: next = '/' :: r → False := by
      rintro r rfl hr
      cases text with
      | nil => simp at hr
      | cons d text =>
        obtain ⟨rfl, -⟩ := List.cons.inj hr
        exact h.1 ⟨text, rfl⟩
    rw [List.cons_append, blockComment.eq_2 _ _ hopen, ih h.2]
    rfl

theorem blockComment_open (h : ¬ ['*', '/'] <:+: text) : blockComment text = (text, []) := by
  induction text with
  | nil => rfl
  | cons c text ih =>
    rw [List.infix_cons_iff, not_or] at h
    have hopen : ∀ r, c = '*' → text = '/' :: r → False := by
      rintro r rfl rfl
      exact h.1 ⟨r, rfl⟩
    rw [blockComment.eq_2 _ _ hopen, ih h.2]

/-- A block comment ends at the first `*/`, or it does not end. -/
theorem blockComment_cases (cs : List Char) :
    (∃ text, ¬ ['*', '/'] <:+: text ∧ text ++ ['*', '/'] = (blockComment cs).1 ∧
      text ++ '*' :: '/' :: (blockComment cs).2 = cs) ∨
    (¬ ['*', '/'] <:+: cs ∧ blockComment cs = (cs, [])) := by
  fun_induction blockComment cs with
  | case1 rest => exact .inl ⟨[], by simp, rfl, rfl⟩
  | case2 c cs hopen text rest hcomment ih =>
    rw [hcomment] at ih
    rcases ih with ⟨body, hbody, htext, hrest⟩ | ⟨hbody, heq⟩
    · refine .inl ⟨c :: body, ?_, congrArg (c :: ·) htext, congrArg (c :: ·) hrest⟩
      rw [List.infix_cons_iff, not_or]
      refine ⟨?_, hbody⟩
      rintro ⟨r, hr⟩
      obtain ⟨rfl, rfl⟩ := List.cons.inj hr
      exact hopen _ rfl hrest.symm
    · refine .inr ⟨?_, congrArg (fun r => (c :: r.1, r.2)) heq⟩
      rw [List.infix_cons_iff, not_or]
      refine ⟨?_, hbody⟩
      rintro ⟨r, hr⟩
      obtain ⟨rfl, rfl⟩ := List.cons.inj hr
      exact hopen r rfl rfl
  | case3 => exact .inr ⟨by simp, rfl⟩

theorem gap_of_gap? (h : gap? cs = some (text, rest)) : Gap text rest ∧ text ++ rest = cs := by
  unfold gap? at h
  split at h
  · rename_i cs
    obtain ⟨rfl, rfl⟩ := by simpa using h
    refine ⟨.lineComment ?_ ?_, ?_⟩
    · intro hmem
      simpa using List.all_eq_true.1 List.all_takeWhile _ hmem
    · intro c t hct
      have := List.head?_dropWhile_not (· != '\n') cs
      rw [hct] at this
      simpa using this
    · rw [List.cons_append, List.cons_append, List.takeWhile_append_dropWhile]
  · rename_i cs
    obtain ⟨rfl, rfl⟩ := by simpa using h
    rcases blockComment_cases cs with ⟨body, hbody, htext, hrest⟩ | ⟨hbody, heq⟩
    · rw [← htext]
      exact ⟨.blockComment hbody, by simpa using hrest⟩
    · rw [heq]
      exact ⟨.openComment hbody, by simp⟩
  · rename_i c cs _ _
    split at h
    · rename_i hblank
      obtain ⟨rfl, rfl⟩ := by simpa using h
      refine ⟨.blanks (List.cons_ne_nil _ _) fun d hd => ?_, ?_⟩
      · rcases List.mem_cons.1 hd with rfl | hd
        · exact hblank
        · exact List.all_eq_true.1 List.all_takeWhile d hd
      · rw [List.cons_append, List.takeWhile_append_dropWhile]
    · cases h
  · cases h

theorem gap?_blank {c : Char} (hc : isSourceBlank c) (cs : List Char) :
    gap? (c :: cs) = some (c :: cs.takeWhile isSourceBlank, cs.dropWhile isSourceBlank) := by
  have hslash : c ≠ '/' := by
    rintro rfl
    exact absurd hc (by decide)
  simp [gap?, hslash, hc]

/-- Where a gap stands, one is found. -/
theorem gap?_ne_none (h : Gap text next) : gap? (text ++ next) ≠ none := by
  cases h with
  | blanks hne hblank =>
    obtain ⟨c, text, rfl⟩ := List.exists_cons_of_ne_nil hne
    rw [List.cons_append, gap?_blank (hblank c (List.mem_cons_self ..))]
    exact Option.some_ne_none _
  | lineComment _ _ => exact Option.some_ne_none _
  | blockComment _ => exact Option.some_ne_none _
  | openComment _ => exact Option.some_ne_none _

/-! ### Scanning -/

theorem scan_gap? {p : Position} (h : gap? cs = some (text, rest)) : scan p cs = scan (p.afterAll text) rest := by
  cases cs with
  | nil => cases h
  | cons c cs =>
    rw [scan]
    split
    · rename_i hgap
      rw [h] at hgap
      cases hgap
      rfl
    · rename_i hgap
      rw [h] at hgap
      cases hgap

theorem scan_front {p : Position} {c : Char} {token : Token} (hgap : gap? (c :: cs) = none)
    (hfront : front c cs = .lexeme token text rest) :
    scan p (c :: cs) = (scan (p.afterAll text) rest).map (⟨token, p.span text⟩ :: ·) := by
  rw [scan]
  split
  · rename_i hsome
    rw [hgap] at hsome
    cases hsome
  · split
    · rename_i hlexeme
      rw [hfront] at hlexeme
      cases hlexeme
      rfl
    · rename_i hbroken
      rw [hfront] at hbroken
      cases hbroken

theorem scan_broken {p : Position} {c : Char} (hgap : gap? (c :: cs) = none) (hfront : front c cs = .broken text) :
    scan p (c :: cs) = .error ⟨String.ofList text, p.span text⟩ := by
  rw [scan]
  split
  · rename_i hsome
    rw [hgap] at hsome
    cases hsome
  · split
    · rename_i hlexeme
      rw [hfront] at hlexeme
      cases hlexeme
    · rename_i hbroken
      rw [hfront] at hbroken
      cases hbroken
      rfl

theorem scan_blank {c : Char} (hc : isSourceBlank c) (p : Position) (cs : List Char) :
    scan p (c :: cs) = scan (p.after c) cs := by
  rw [scan_gap? (gap?_blank hc cs)]
  cases cs with
  | nil => rfl
  | cons d cs =>
    by_cases hd : isSourceBlank d
    · rw [scan_gap? (gap?_blank hd cs), List.takeWhile_cons_of_pos hd, List.dropWhile_cons_of_pos hd]
      rfl
    · rw [List.takeWhile_cons_of_neg hd, List.dropWhile_cons_of_neg hd]
      rfl

/-- **A gap is passed over,** also if it is only a part of the blanks that stand there. -/
theorem scan_gap (h : Gap text next) (p : Position) : scan p (text ++ next) = scan (p.afterAll text) next := by
  cases h with
  | blanks _ hblank =>
    clear * - hblank
    induction text generalizing p with
    | nil => rfl
    | cons c text ih =>
      rw [List.cons_append, scan_blank (hblank c (List.mem_cons_self ..)),
        ih _ fun d hd => hblank d (List.mem_cons_of_mem c hd)]
      rfl
  | @lineComment text _ hbreak hstop =>
    have hline : (text ++ next).takeWhile (· != '\n') = text ∧ (text ++ next).dropWhile (· != '\n') = next :=
      takeWhile_append_stop (fun c hc => bne_iff_ne.2 fun heq => hbreak (heq ▸ hc))
        (fun c t ht => by simpa using hstop c t ht)
    refine scan_gap? ?_
    rw [List.cons_append, List.cons_append, gap?, hline.1, hline.2]
  | @blockComment text _ hclose =>
    refine scan_gap? ?_
    rw [List.cons_append, List.cons_append, gap?, List.append_assoc, List.cons_append, List.singleton_append,
      blockComment_close hclose]
  | @openComment text hclose =>
    refine scan_gap? ?_
    rw [List.append_nil, gap?, blockComment_open hclose]

/-! ### Lexemes by themselves -/

theorem gap?_eq_none_iff {c : Char} :
    gap? (c :: cs) = none ↔ ¬ isSourceBlank c ∧ (c = '/' → ∀ d t, cs = d :: t → d ≠ '/' ∧ d ≠ '*') := by
  constructor
  · intro h
    refine ⟨fun hblank => ?_, ?_⟩
    · rw [gap?_blank hblank] at h
      cases h
    · rintro rfl d t rfl
      refine ⟨?_, ?_⟩ <;> rintro rfl <;> cases h
  · rintro ⟨hblank, h⟩
    unfold gap?
    split
    · rename_i heq
      obtain ⟨rfl, rfl⟩ := List.cons.inj heq
      exact absurd rfl (h rfl _ _ rfl).1
    · rename_i heq
      obtain ⟨rfl, rfl⟩ := List.cons.inj heq
      exact absurd rfl (h rfl _ _ rfl).2
    · rename_i heq
      obtain ⟨rfl, rfl⟩ := List.cons.inj heq
      exact if_neg hblank
    · rfl

theorem gap?_eq_none_of_append {a b : List Char} (h : gap? (a ++ b) = none) : gap? a = none := by
  cases a with
  | nil => rfl
  | cons c a =>
    obtain ⟨hblank, hslash⟩ := gap?_eq_none_iff.1 h
    exact gap?_eq_none_iff.2 ⟨hblank, fun hc d t heq => hslash hc d (t ++ b) (by rw [heq]; rfl)⟩

theorem gap?_mark_append (m : Mark) (hnext : ∀ c t, next = c :: t → c ≠ '/' ∧ c ≠ '*') :
    gap? (m.lexeme.toList ++ next) = none := by
  cases m with
  | slash => exact gap?_eq_none_iff.2 ⟨by decide, fun _ => hnext⟩
  | _ => rfl

/-- No gap stands where a lexeme does, if no comment starts there. -/
theorem gap?_lexeme_append {token : Token} (h : Lexeme token text) (hnext : ∀ c t, next = c :: t → c ≠ '/' ∧ c ≠ '*') :
    gap? (text ++ next) = none := by
  obtain ⟨c, t, rfl, hc⟩ := h.exists_cons
  have hname : isNameChar c → gap? (c :: t ++ next) = none := fun hc =>
    gap?_eq_none_iff.2 ⟨not_blank_of_isNameChar hc, fun heq => absurd hc (heq ▸ by decide)⟩
  cases token with
  | mark m =>
    obtain ⟨m', hm, htext⟩ := h.eq_mark hc.1 hc.2.1 hc.2.2
    exact htext ▸ gap?_mark_append m' hnext
  | keyword _ => exact hname (isNameChar_of_isNameStart hc)
  | identifier _ => exact hname (isNameChar_of_isNameStart hc)
  | number _ => exact hname (isNameChar_of_isDigit hc)
  | string _ => rcases hc with rfl | rfl <;> rfl

theorem front_of_lexeme {token : Token} {c : Char} {t : List Char} (h : Lexeme token (c :: t)) :
    front c t = .lexeme token (c :: t) [] :=
  front_eq_lexeme_iff.2 ⟨h, List.append_nil _, ⟨token, h⟩, fun _ _ hpre => hpre⟩

/-- **A lexeme by itself is cut into its token.** -/
theorem scan_of_lexeme {token : Token} (h : Lexeme token text) (p : Position) :
    scan p text = .ok [⟨token, p.span text⟩] := by
  obtain ⟨c, t, rfl, -⟩ := h.exists_cons
  have hgap : gap? (c :: t ++ []) = none := gap?_lexeme_append h nofun
  rw [List.append_nil] at hgap
  rw [scan_front hgap (front_of_lexeme h), scan]
  rfl

theorem tokenize_ofList (cs : List Char) :
    tokenize (String.ofList cs) = (scan .start cs).map fun ts => ⟨ts, place cs []⟩ := by
  rw [tokenize, String.toList_ofList, span_start]

theorem offset_afterAll (p : Position) (text : List Char) : (p.afterAll text).offset = p.offset + bytes text := by
  induction text generalizing p with
  | nil => rfl
  | cons c text ih =>
    have hc : (p.after c).offset = p.offset + c.utf8Size := by
      unfold Position.after
      split
      · rename_i heq
        rw [heq]
        rfl
      · rfl
    rw [← List.singleton_append, Position.afterAll_append, ih]
    simp [Position.afterAll, hc, Nat.add_assoc]

theorem map_ok_inv {ε α β : Type} {x : Except ε α} {f : α → β} {b : β} (h : x.map f = .ok b) :
    ∃ a, x = .ok a ∧ f a = b := by
  cases x with
  | error e => cases h
  | ok a => exact ⟨a, rfl, Except.ok.inj h⟩

theorem scan_of_tokenize {source : String} {ts : Tokens} (h : tokenize source = .ok ts) :
    scan .start source.toList = .ok ts.tokens := by
  obtain ⟨located, hscan, rfl⟩ := map_ok_inv h
  exact hscan

/-- No token starts in front of where the scan does. -/
theorem offset_le_of_scan {p : Position} {ts : List Located} (h : scan p cs = .ok ts) :
    ∀ t ∈ ts, p.offset ≤ t.span.start := by
  fun_induction scan p cs generalizing ts with
  | case1 =>
    cases h
    exact fun _ ht => absurd ht List.not_mem_nil
  | case2 p c cs text rest _ ih =>
    intro t ht
    have := ih h t ht
    rw [offset_afterAll] at this
    omega
  | case3 p c cs _ token text rest _ ih =>
    obtain ⟨ts', hts', rfl⟩ := map_ok_inv h
    intro t ht
    rcases List.mem_cons.1 ht with rfl | ht
    · exact Nat.le_refl _
    · have := ih hts' t ht
      rw [offset_afterAll] at this
      omega
  | case4 => cases h

theorem Gap.ne_nil (h : Gap text next) : text ≠ [] := by
  cases h with
  | blanks hne _ => exact hne
  | _ => exact List.cons_ne_nil _ _

theorem bytes_pos (h : cs ≠ []) : 0 < bytes cs := by
  obtain ⟨c, cs, rfl⟩ := List.exists_cons_of_ne_nil h
  have := c.utf8Size_pos
  rw [bytes_cons]
  omega

/-- What is cut into one token that starts where the text does and ends where it ends is a lexeme. -/
theorem lexeme_of_scan {token : Token} (h : scan .start text = .ok [⟨token, place [] text⟩]) : Lexeme token text := by
  cases text with
  | nil =>
    rw [scan] at h
    cases h
  | cons c cs =>
    cases hgap : gap? (c :: cs) with
    | some found =>
      rw [scan_gap? hgap] at h
      have hstart := offset_le_of_scan h _ (List.mem_singleton_self _)
      have hpos := bytes_pos (gap_of_gap? hgap).1.ne_nil
      rw [offset_afterAll] at hstart
      simp only [place, Position.start, bytes_nil] at hstart
      omega
    | none =>
      have hfits := fits_front c cs
      cases hfront : front c cs with
      | broken t =>
        rw [scan_broken hgap hfront] at h
        cases h
      | lexeme token' t r =>
        rw [hfront] at hfits
        rw [scan_front hgap hfront] at h
        obtain ⟨ts, -, heq⟩ := map_ok_inv h
        obtain ⟨hhead, -⟩ := List.cons.inj heq
        obtain ⟨rfl, hspan⟩ := Located.mk.inj hhead
        have hstop := congrArg Span.stop hspan
        simp only [Position.span, place, offset_afterAll, List.nil_append, ← hfits.2.append, bytes_append] at hstop
        have hr : r = [] := by
          by_contra hne
          have := bytes_pos hne
          simp only [Position.start] at hstop
          omega
        subst hr
        have htext := hfits.2.append
        rw [List.append_nil] at htext
        exact htext ▸ hfits.1

/-! ### Tilings -/

/-- Whether `text` is cut into `token` alone. -/
def CutAlone (token : Token) (text : List Char) : Prop :=
  tokenize (String.ofList text) = .ok ⟨[⟨token, place [] text⟩], place text []⟩

theorem cutAlone_iff {token : Token} : CutAlone token text ↔ Lexeme token text := by
  constructor
  · intro h
    rw [CutAlone, tokenize_ofList] at h
    obtain ⟨ts, hts, heq⟩ := map_ok_inv h
    rw [(Tokens.mk.inj heq).1] at hts
    exact lexeme_of_scan hts
  · intro h
    have hspan : Position.start.span text = place [] text := span_start [] text
    rw [CutAlone, tokenize_ofList, scan_of_lexeme h, hspan]
    rfl

/-- Behind `read`, a source `cs` starts with gaps and with the texts of the tokens `ts`, and `rest` is what follows
them.  Where a token stands, there is no gap and no longer lexeme. -/
inductive Tiles : List Char → List Char → List Located → List Char → Prop where
  | done {read cs : List Char} : Tiles read cs [] cs
  | gap {read text next rest : List Char} {ts : List Located} (hgap : Gap text next)
    (h : Tiles (read ++ text) next ts rest) : Tiles read (text ++ next) ts rest
  | token {read text next rest : List Char} {token : Token} {ts : List Located} (hne : text ≠ [])
    (halone : CutAlone token text) (hlongest : ∀ t, IsLexeme t → t <+: text ++ next → t <+: text)
    (hgap : ∀ t n, Gap t n → t ++ n ≠ text ++ next) (h : Tiles (read ++ text) next ts rest) :
    Tiles read (text ++ next) (⟨token, place read text⟩ :: ts) rest

theorem forall_gap_ne_iff : (∀ t n, Gap t n → t ++ n ≠ cs) ↔ gap? cs = none := by
  constructor
  · intro h
    cases hgap : gap? cs with
    | none => rfl
    | some found =>
      obtain ⟨hgap, happend⟩ := gap_of_gap? hgap
      exact absurd happend (h _ _ hgap)
  · rintro hnone t n hgap rfl
    exact gap?_ne_none hgap hnone

/-- What a scan of `cs` behind `read` gives is right: the tokens tile all of it, or all that stands in front of the
text that is reported. -/
def Tiled (read cs : List Char) : Except ScanError (List Located) → Prop
  | .ok ts => Tiles read cs ts []
  | .error e => ∃ before text rest ts, before ++ text ++ rest = cs ∧ text ≠ [] ∧
      e = ⟨String.ofList text, place (read ++ before) text⟩ ∧ Tiles read cs ts (text ++ rest)

variable {read : List Char} {result : Except ScanError (List Located)}

theorem Tiled.gap (hgap : Gap text next) (h : Tiled (read ++ text) next result) : Tiled read (text ++ next) result := by
  cases result with
  | ok ts => exact .gap hgap h
  | error e =>
    obtain ⟨before, broken, rest, ts, rfl, hne, rfl, htiles⟩ := h
    exact ⟨text ++ before, broken, rest, ts, by simp, hne, by simp, .gap hgap htiles⟩

theorem Tiled.token {token : Token} (hlexeme : Lexeme token text)
    (hlongest : ∀ t, IsLexeme t → t <+: text ++ next → t <+: text) (hgap : gap? (text ++ next) = none)
    (h : Tiled (read ++ text) next result) :
    Tiled read (text ++ next) (result.map (⟨token, place read text⟩ :: ·)) := by
  obtain ⟨c, t, htext, -⟩ := hlexeme.exists_cons
  have hne : text ≠ [] := htext ▸ List.cons_ne_nil c t
  have hcons : ∀ ts rest, Tiles (read ++ text) next ts rest →
      Tiles read (text ++ next) (⟨token, place read text⟩ :: ts) rest := fun ts rest =>
    .token hne (cutAlone_iff.2 hlexeme) hlongest (forall_gap_ne_iff.2 hgap)
  cases result with
  | ok ts => exact hcons ts [] h
  | error e =>
    obtain ⟨before, broken, rest, ts, rfl, hbroken, rfl, htiles⟩ := h
    exact ⟨text ++ before, broken, rest, _, by simp, hbroken, by simp, hcons ts _ htiles⟩

/-- **Scanning tiles a source,** up to its end or up to the text that is reported. -/
theorem tiled_scan (read cs : List Char) : Tiled read cs (scan (Position.start.afterAll read) cs) := by
  generalize hp : Position.start.afterAll read = p
  fun_induction scan p cs generalizing read with
  | case1 p => exact .done
  | case2 p c cs text rest hfound ih =>
    obtain ⟨hgap, happend⟩ := gap_of_gap? hfound
    rw [← happend]
    exact .gap hgap (ih _ (by rw [Position.afterAll_append, hp]))
  | case3 p c cs hgap token text rest hfront ih =>
    obtain ⟨hlexeme, hlongest⟩ := front_eq_lexeme_iff.1 hfront
    have hspan : p.span text = place read text := by rw [← hp, span_start]
    have htiled := ih _ (by rw [Position.afterAll_append, hp])
    rw [hspan]
    rw [← hlongest.append] at hgap ⊢
    exact htiled.token hlexeme (hlongest.append ▸ hlongest.longest) hgap
  | case4 p c cs hgap text hfront =>
    have hfits := fits_front c cs
    rw [hfront] at hfits
    obtain ⟨rest, hrest⟩ := hfits.2.1
    exact ⟨[], text, rest, [], hrest, hfits.1, by rw [List.append_nil, ← span_start, hp], hrest ▸ .done⟩

/-! ### Scanning a tiling -/

/-- **A tiling is what a scan finds:** its tokens come first, and the scan goes on behind them. -/
theorem Tiles.exists_scan {ts : List Located} (h : Tiles read cs ts rest) :
    ∃ front, front ++ rest = cs ∧ scan (Position.start.afterAll read) cs =
      (scan (Position.start.afterAll (read ++ front)) rest).map (ts ++ ·) := by
  induction h with
  | done =>
    refine ⟨[], rfl, ?_⟩
    rw [List.append_nil]
    cases scan _ _ <;> rfl
  | gap hgap _ ih =>
    obtain ⟨front, rfl, hscan⟩ := ih
    refine ⟨_ ++ front, List.append_assoc .., ?_⟩
    rw [scan_gap hgap, ← Position.afterAll_append, hscan, List.append_assoc]
  | @token read text next rest token ts _ halone hlongest hgap _ ih =>
    obtain ⟨front, rfl, hscan⟩ := ih
    refine ⟨text ++ front, List.append_assoc .., ?_⟩
    have hlexeme := cutAlone_iff.1 halone
    obtain ⟨c, t, rfl, -⟩ := hlexeme.exists_cons
    rw [List.cons_append] at hlongest hgap ⊢
    rw [scan_front (forall_gap_ne_iff.1 hgap) (front_eq_lexeme_iff.2 ⟨hlexeme, rfl, ⟨token, hlexeme⟩, hlongest⟩),
      span_start, ← Position.afterAll_append, hscan, List.append_assoc]
    cases scan _ _ <;> rfl

theorem Gap.of_append {a b : List Char} (h : Gap text (a ++ b)) : Gap text a := by
  generalize hnext : a ++ b = next at h
  cases h with
  | blanks hne hblank => exact .blanks hne hblank
  | lineComment hbreak hstop =>
    exact .lineComment hbreak fun c t ha => hstop c (t ++ b) (by rw [← hnext, ha, List.cons_append])
  | blockComment hclose => exact .blockComment hclose
  | openComment hclose =>
    obtain ⟨rfl, -⟩ := List.append_eq_nil_iff.1 hnext
    exact .openComment hclose

/-- What tiles the front of a source tiles it by itself. -/
theorem Tiles.of_append {front : List Char} {ts : List Located} (h : Tiles read cs ts rest) (hcs : front ++ rest = cs) :
    Tiles read front ts [] := by
  induction h generalizing front with
  | done =>
    obtain rfl := List.append_left_eq_self.1 hcs
    exact .done
  | gap hgap h ih =>
    obtain ⟨middle, rfl, -⟩ := h.exists_scan
    rw [← List.append_assoc, List.append_cancel_right_eq] at hcs
    exact hcs ▸ .gap hgap.of_append (ih rfl)
  | @token read text _ rest _ _ hne halone hlongest hgap h ih =>
    obtain ⟨middle, rfl, -⟩ := h.exists_scan
    rw [← List.append_assoc, List.append_cancel_right_eq] at hcs
    rw [forall_gap_ne_iff, ← List.append_assoc] at hgap
    refine hcs ▸ .token hne halone (fun t ht hpre => hlongest t ht ?_)
      (forall_gap_ne_iff.2 (gap?_eq_none_of_append hgap)) (ih rfl)
    rw [← List.append_assoc]
    exact hpre.trans (List.prefix_append ..)

theorem tokenize_of_tiles {ts : List Located} (h : Tiles [] cs ts []) :
    tokenize (String.ofList cs) = .ok ⟨ts, place cs []⟩ := by
  obtain ⟨front, -, hscan⟩ := h.exists_scan
  rw [tokenize_ofList, show Position.start = Position.start.afterAll [] from rfl, hscan, scan]
  simp [Except.map]

/-- **The tokens of a source and the gaps between them tile it.**  If a source is cut into tokens, then it consists of
their texts, each of which is cut into its token by itself, and of blanks and comments; a token is placed where its
text stands, and the end of the source where the source ends.  If it is not, this holds for all that stands in front
of the text that is reported, and that part of the source is cut into its tokens by itself. -/
theorem tokenize_tiles (source : String) :
    match tokenize source with
    | .ok t => Tiles [] source.toList t.tokens [] ∧ t.stop = place source.toList []
    | .error e => ∃ before rest ts, before ++ e.text.toList ++ rest = source.toList ∧ e.text ≠ "" ∧
        e.span = place before e.text.toList ∧ Tiles [] source.toList ts (e.text.toList ++ rest) ∧
        tokenize (String.ofList before) = .ok ⟨ts, place before []⟩ := by
  have htiled := tiled_scan [] source.toList
  rw [← String.ofList_toList (s := source), tokenize_ofList, String.ofList_toList]
  rw [show Position.start.afterAll [] = Position.start from rfl] at htiled
  cases hscan : scan .start source.toList with
  | ok ts =>
    rw [hscan] at htiled
    exact ⟨htiled, rfl⟩
  | error e =>
    rw [hscan] at htiled
    obtain ⟨before, text, rest, ts, hsource, hne, rfl, htiles⟩ := htiled
    refine ⟨before, rest, ts, ?_, ?_, ?_, ?_, ?_⟩
    · rw [String.toList_ofList, hsource]
    · simpa using hne
    · rw [String.toList_ofList, List.nil_append]
    · rw [String.toList_ofList]
      exact htiles
    · exact tokenize_of_tiles (htiles.of_append (by rw [← List.append_assoc, hsource]))

end Syntax
end ScriptImport
