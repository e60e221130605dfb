/-
# Where reading a URL starts

A text is read as a URL from behind the colon of its scheme on.  `Behind text scheme rest` says where that is: blanks
may stand in front of the scheme and line breaks inside of it.  What is added to the end of a text is added to the
rest (`Behind.append`), so the scheme stays, whatever is added.

Of the rest, the blanks at the end do not count, nor do line breaks and tabs, and a question mark or a hash ends it.
Apart from these all characters are the front of the reference (`Parts.front_of_plain`).
-/

import Mathlib.Data.List.DropRight
import ScriptImport.Url.Read

namespace ScriptImport
namespace Url

variable {text scheme rest cs : List Char} {c : Char}

/-! ### Blanks and line breaks -/

/-- Blanks and control characters, which do not count at the ends of a text. -/
def isEnd (c : Char) : Bool := c ≤ ' '

theorem trim_eq (cs : List Char) : trim cs = (cs.dropWhile isEnd).rdropWhile isEnd := rfl

theorem rdropWhile_append_cons {p : Char → Bool} (hc : p c = false) (as bs : List Char) :
    (as ++ c :: bs).rdropWhile p = as ++ c :: bs.rdropWhile p := by
  unfold List.rdropWhile
  rw [List.reverse_append, List.reverse_cons, List.append_assoc, List.dropWhile_append]
  split
  · next h =>
    rw [List.isEmpty_iff] at h
    simp [h, hc]
  · simp

theorem takeWhile_append_cons {p : Char → Bool} {as : List Char} (has : ∀ a ∈ as, p a = true) (hc : p c = false)
    (bs : List Char) : (as ++ c :: bs).takeWhile p = as := by
  rw [List.takeWhile_append_of_pos has, List.takeWhile_cons_of_neg (by simp [hc]), List.append_nil]

theorem plain_append (as bs : List Char) : plain (as ++ bs) = plain as ++ plain bs := List.filter_append ..

theorem plain_eq_self (h : ∀ c ∈ cs, isBreak c = false) : plain cs = cs :=
  List.filter_eq_self.2 fun c hc => by simp [h c hc]

/-- What is in front of a character that counts. -/
theorem exists_of_plain_eq {as bs : List Char} (h : plain cs = as ++ c :: bs) :
    ∃ front after, cs = front ++ c :: after ∧ plain front = as ∧ plain after = bs := by
  obtain ⟨front, behind, rfl, hfront, hbehind⟩ := List.filter_eq_append_iff.1 h
  obtain ⟨breaks, after, rfl, hbreaks, -, hafter⟩ := List.filter_eq_cons_iff.1 hbehind
  have hnone : plain breaks = [] := List.filter_eq_nil_iff.2 hbreaks
  refine ⟨front ++ breaks, after, (List.append_assoc ..).symm, ?_, hafter⟩
  rw [plain_append, hnone, List.append_nil]
  exact hfront

theorem isEnd_of_isBreak (h : isBreak c = true) : isEnd c = true := by
  simp only [isBreak, Bool.or_eq_true, decide_eq_true_eq] at h
  rcases h with (rfl | rfl) | rfl <;> decide

/-- Characters are dropped up to one that counts. -/
theorem dropPlain_append (as bs : List Char) (hc : isBreak c = false) :
    dropPlain ((plain as).length + 1) (as ++ c :: bs) = bs := by
  induction as with
  | nil => simp [plain, dropPlain, hc]
  | cons a as ih =>
    rw [List.cons_append]
    cases ha : isBreak a with
    | true =>
      have hplain : plain (a :: as) = plain as := by simp [plain, ha]
      rw [hplain, dropPlain, if_pos ha]
      exact ih
    | false =>
      have hplain : plain (a :: as) = a :: plain as := by simp [plain, ha]
      rw [hplain, dropPlain, if_neg (by simp [ha])]
      exact ih

/-! ### Schemes -/

/-- Texts that are schemes. -/
structure IsScheme (scheme : List Char) : Prop where
  first : ∃ c cs, scheme = c :: cs ∧ c.isAlpha = true
  all : ∀ c ∈ scheme, isSchemeChar c = true

theorem IsScheme.cut (h : IsScheme scheme) (rest : List Char) : cutScheme (scheme ++ ':' :: rest) = some scheme := by
  have hcolon : isSchemeChar ':' = false := by decide
  have hdrop : (scheme ++ ':' :: rest).dropWhile isSchemeChar = ':' :: rest := by
    rw [List.dropWhile_append_of_pos h.all, List.dropWhile_cons_of_neg (by simp [hcolon])]
  have htake : (scheme ++ ':' :: rest).takeWhile isSchemeChar = scheme := takeWhile_append_cons h.all hcolon rest
  obtain ⟨c, cs, hscheme, hc⟩ := h.first
  have hhead : (scheme ++ ':' :: rest).head? = some c := by rw [hscheme]; rfl
  rw [cutScheme, hhead, hdrop, htake]
  exact if_pos hc

theorem eq_append_of_cutScheme (h : cutScheme cs = some scheme) :
    ∃ rest, cs = scheme ++ ':' :: rest ∧ IsScheme scheme := by
  unfold cutScheme at h
  split at h
  · next c rest hhead hdrop =>
    split at h
    · next hc =>
      obtain rfl := Option.some.inj h
      have hcs : cs = cs.takeWhile isSchemeChar ++ ':' :: rest := by
        rw [← hdrop, List.takeWhile_append_dropWhile]
      obtain ⟨cs', rfl⟩ : ∃ cs', cs = c :: cs' := by
        cases cs with
        | nil => cases hhead
        | cons d cs' => exact ⟨cs', by rw [Option.some.inj hhead]⟩
      have hchar : isSchemeChar c = true := by simp [isSchemeChar, Char.isAlphanum, hc]
      exact ⟨rest, hcs, ⟨c, _, List.takeWhile_cons_of_pos hchar, hc⟩, fun d hd => List.mem_takeWhile_imp hd⟩
    · cases h
  · cases h

/-- A text starts with a scheme, perhaps behind blanks and with line breaks in it, and `rest` is behind its colon. -/
def Behind (text scheme rest : List Char) : Prop :=
  ∃ blanks front, text = blanks ++ (front ++ ':' :: rest) ∧ (∀ c ∈ blanks, isEnd c = true) ∧
    (∀ c ∈ front.head?, isEnd c = false) ∧ plain front = scheme ∧ IsScheme scheme

theorem Behind.append (h : Behind text scheme rest) (more : List Char) :
    Behind (text ++ more) scheme (rest ++ more) := by
  obtain ⟨blanks, front, rfl, hrest⟩ := h
  exact ⟨blanks, front, by simp, hrest⟩

/-- Without the blanks in front, the text starts with the scheme. -/
theorem Behind.dropWhile_eq (h : Behind text scheme rest) :
    ∃ front, text.dropWhile isEnd = front ++ ':' :: rest ∧ plain front = scheme ∧ IsScheme scheme := by
  obtain ⟨blanks, front, rfl, hblanks, hfront, hplain, hscheme⟩ := h
  refine ⟨front, ?_, hplain, hscheme⟩
  rw [List.dropWhile_append_of_pos hblanks]
  cases front with
  | nil => exact List.dropWhile_cons_of_neg (by decide)
  | cons c front => exact List.dropWhile_cons_of_neg (by simp [hfront c rfl])

/-- **A text with a scheme is read from behind the colon on.** -/
theorem Behind.readFrom_eq (h : Behind text scheme rest) : readFrom none text =
    absoluteUrl none (String.ofList (scheme.map Char.toLower)) (.of (rest.rdropWhile isEnd)) := by
  obtain ⟨front, htext, rfl, hscheme⟩ := h.dropWhile_eq
  have hraw : trim text = front ++ ':' :: rest.rdropWhile isEnd := by
    rw [trim_eq, htext, rdropWhile_append_cons (by decide)]
  have hplain : plain (front ++ ':' :: rest.rdropWhile isEnd) =
      plain front ++ ':' :: plain (rest.rdropWhile isEnd) := by
    rw [plain_append]
    rfl
  have hbehind := dropPlain_append front (rest.rdropWhile isEnd) (c := ':') (by decide)
  rw [readFrom, hraw, hplain, hscheme.cut]
  exact congrArg (fun behind => absoluteUrl none _ (.of behind)) hbehind

/-- Only texts with a scheme are URLs by themselves. -/
theorem exists_behind {u : Url} (h : readFrom none text = .ok u) : ∃ scheme rest, Behind text scheme rest := by
  rw [readFrom] at h
  split at h
  · next scheme hcut =>
    obtain ⟨rest, hplain, hscheme⟩ := eq_append_of_cutScheme hcut
    obtain ⟨front, after, htext, hfront, -⟩ := exists_of_plain_eq hplain
    obtain ⟨blanks, hblanks⟩ := List.rdropWhile_prefix isEnd (text.dropWhile isEnd)
    have hdrop : text.dropWhile isEnd = front ++ ':' :: (after ++ blanks) := by
      rw [← hblanks, ← trim_eq, htext, List.append_assoc, List.cons_append]
    refine ⟨scheme, after ++ blanks, text.takeWhile isEnd, front, ?_, fun c hc => List.mem_takeWhile_imp hc, ?_,
      hfront, hscheme⟩
    · rw [← hdrop, List.takeWhile_append_dropWhile]
    · intro c hc
      have hhead := List.head?_dropWhile_not isEnd text
      rw [hdrop, List.head?_append, Option.mem_def.1 hc] at hhead
      simpa using hhead
  · cases h

/-! ### The front of a reference -/

/-- Neither a question mark nor a hash. -/
def isFront (c : Char) : Bool := c ≠ '?' && c ≠ '#'

theorem Parts.raw_of (cs : List Char) : (Parts.of cs).raw = cs.takeWhile isFront := by
  unfold Parts.of
  dsimp only
  split
  · split <;> rfl
  · rfl
  · rfl

theorem Parts.front_of (cs : List Char) : (Parts.of cs).front = plain (cs.takeWhile isFront) := by
  rw [Parts.front, Parts.raw_of]

theorem Parts.front_of_plain (cs : List Char) : (Parts.of (cs.rdropWhile isEnd)).front <+: plain cs := by
  rw [Parts.front_of]
  exact ((List.takeWhile_prefix _).trans (List.rdropWhile_prefix _ cs)).filter _

theorem Parts.front_of_sublist (cs : List Char) : (Parts.of (cs.rdropWhile isEnd)).front.Sublist cs :=
  (Parts.front_of_plain cs).sublist.trans List.filter_sublist

/-- All of a text is the front of a reference if nothing in it ends the front and no blank ends it. -/
theorem Parts.front_eq_self (hbreak : ∀ c ∈ cs, isBreak c = false) (hfront : ∀ c ∈ cs, isFront c = true)
    (hlast : cs.getLast?.any isEnd = false) : (Parts.of (cs.rdropWhile isEnd)).front = cs := by
  have hend : cs.rdropWhile isEnd = cs := by
    refine List.rdropWhile_eq_self_iff.2 fun hne => ?_
    rw [List.getLast?_eq_some_getLast hne] at hlast
    simpa using hlast
  rw [Parts.front_of, hend, List.takeWhile_eq_self_iff.2 hfront, plain_eq_self hbreak]

theorem Parts.of_front_eq_self (h : (Parts.of (cs.rdropWhile isEnd)).front = cs) :
    (∀ c ∈ cs, isFront c = true) ∧ cs.getLast?.any isEnd = false := by
  rw [Parts.front_of] at h
  have hend := List.rdropWhile_prefix isEnd cs
  have htake := (List.takeWhile_prefix isFront).trans hend
  have hlength : cs.length ≤ ((cs.rdropWhile isEnd).takeWhile isFront).length := by
    conv_lhs => rw [← h]
    exact List.length_filter_le ..
  have hself : cs.rdropWhile isEnd = cs :=
    hend.eq_of_length_le (hlength.trans (List.takeWhile_prefix _).length_le)
  have hall := htake.eq_of_length_le hlength
  rw [hself] at hall
  refine ⟨List.takeWhile_eq_self_iff.1 hall, (Option.any_eq_false ..).2 fun c hc => ?_⟩
  obtain ⟨before, rfl⟩ := List.getLast?_eq_some_iff.1 hc
  simpa using List.rdropWhile_eq_self_iff.1 hself (by simp)

end Url
end ScriptImport
