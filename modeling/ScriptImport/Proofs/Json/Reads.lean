/-
# What a reader takes from the front of a JSON text

`Reads r cs v rest` says that in front of `rest` the reader `r` takes exactly the characters `cs` and
makes `v` of them, wherever in a text they stand.  What is read in parts is composed by `Reads.bind`, so
that a reader of a whole format follows from the readers of its pieces.

The pieces of this file are blanks, strings with their escapes (`reads_string`), and the integers that a
machine word holds (`reads_natural`).
-/

import Mathlib.Data.Nat.Digits.Lemmas
import Mathlib.Tactic.IntervalCases
import ScriptImport.Json.Record

namespace ScriptImport
namespace Json
namespace Reader

variable {α β : Type}

/-- In front of `rest`, the reader `r` takes exactly `cs` and makes `v` of it. -/
def Reads (r : Reader α) (cs : List Char) (v : α) (rest : List Char) : Prop :=
  ∀ p, ∃ q, r ⟨cs ++ rest, p⟩ = .ok (v, ⟨rest, q⟩)

theorem reads_pure (v : α) (rest : List Char) : Reads (pure v) [] v rest := fun p => ⟨p, rfl⟩

/-- **Readers compose:** what the first one leaves is what the second one reads. -/
theorem Reads.bind {r : Reader α} {f : α → Reader β} {as bs : List Char} {v : α} {w : β}
    {rest : List Char} (hr : Reads r as v (bs ++ rest)) (hf : Reads (f v) bs w rest) :
    Reads (r >>= f) (as ++ bs) w rest := by
  intro p
  obtain ⟨q, hq⟩ := hr p
  obtain ⟨q', hq'⟩ := hf q
  refine ⟨q', ?_⟩
  rw [List.append_assoc]
  show (r ⟨as ++ (bs ++ rest), p⟩ >>= fun x => f x.1 x.2) = _
  rw [hq]
  exact hq'

/-- A reader that only looks at what is in front goes before another one. -/
theorem Reads.look {r : Reader α} {f : α → Reader β} {cs : List Char} {v : α} {w : β}
    {rest : List Char} (hr : Reads r [] v (cs ++ rest)) (hf : Reads (f v) cs w rest) :
    Reads (r >>= f) cs w rest := hr.bind hf

/-- A reader that takes one character goes before another one. -/
theorem Reads.take {r : Reader α} {f : α → Reader β} {c : Char} {cs : List Char} {v : α} {w : β}
    {rest : List Char} (hr : Reads r [c] v (cs ++ rest)) (hf : Reads (f v) cs w rest) :
    Reads (r >>= f) (c :: cs) w rest := hr.bind hf

/-- A reader goes before another one that only looks at what is in front. -/
theorem Reads.before {r : Reader α} {f : α → Reader β} {cs : List Char} {v : α} {w : β}
    {rest : List Char} (hr : Reads r cs v rest) (hf : Reads (f v) [] w rest) :
    Reads (r >>= f) cs w rest := by
  have h : Reads (r >>= f) (cs ++ []) w rest := hr.bind hf
  rwa [List.append_nil] at h

/-- What is made of a value that was read. -/
theorem Reads.map {r : Reader α} {cs : List Char} {v : α} {rest : List Char} (hr : Reads r cs v rest)
    (f : α → β) : Reads (do return f (← r)) cs (f v) rest := hr.before (reads_pure (f v) rest)

theorem reads_peek (rest : List Char) : Reads peek [] rest.head? rest := fun p => ⟨p, rfl⟩

theorem reads_next (c : Char) (rest : List Char) : Reads next [c] (some c) rest :=
  fun p => ⟨p.after c, rfl⟩

theorem reads_skip (c : Char) (rest : List Char) : Reads skip [c] () rest :=
  fun p => ⟨p.after c, rfl⟩

theorem reads_budget (rest : List Char) : Reads budget [] rest.length rest := fun p => ⟨p, rfl⟩

/-- The characters that satisfy a condition are taken up to the first one that does not. -/
theorem reads_takeWhile {p : Char → Bool} {cs rest : List Char} (hcs : ∀ c ∈ cs, p c)
    (hrest : ∀ c ∈ rest.head?, p c = false) : Reads (takeWhile p) cs cs rest := by
  have htake : (cs ++ rest).takeWhile p = cs := by
    rw [List.takeWhile_append_of_pos hcs]
    cases rest with
    | nil => simp
    | cons c rest => simp [hrest c rfl]
  have hdrop : (cs ++ rest).dropWhile p = rest := by
    rw [List.dropWhile_append_of_pos hcs]
    cases rest with
    | nil => simp
    | cons c rest => simp [hrest c rfl]
  exact fun q => ⟨_, by rw [takeWhile, htake, hdrop]⟩

/-- Where no blank is in front, nothing is passed over. -/
theorem reads_peekPast {c : Char} {rest : List Char} (h : isBlank c = false) :
    Reads peekPast [] (some c) (c :: rest) :=
  Reads.look (reads_takeWhile (by simp) (by simpa using h)) (reads_peek (c :: rest))

/-- **A text is read from end to end** if nothing of it is left. -/
theorem whole_eq {r : Reader α} {cs : List Char} {v : α} (h : Reads r cs v []) :
    whole r (String.ofList cs) = .ok v := by
  have hend : Reads peekPast [] none [] :=
    Reads.look (reads_takeWhile (by simp) (by simp)) (reads_peek [])
  have hfinish : Reads finish [] () [] := by
    refine Reads.look hend ?_
    rw [Option.isSome_none, if_neg (by decide)]
    exact reads_pure () []
  have hall : Reads (do let v ← r; finish; return v) cs v [] :=
    h.before (Reads.look hfinish (reads_pure v []))
  obtain ⟨q, hq⟩ := hall ⟨1, 0⟩
  rw [List.append_nil] at hq
  show (·.1) <$> (do let v ← r; finish; return v : Reader α) ⟨(String.ofList cs).toList, ⟨1, 0⟩⟩ = _
  rw [String.toList_ofList, hq]
  rfl

/-! ### Strings -/

/-- Four hexadecimal digits of a number below 32 are read back; these are all that control characters
need. -/
theorem reads_fourHex {n : Nat} (h : n < 32) (rest : List Char) :
    Reads fourHex (Text.hexPadded 4 n) n rest := by
  have hdigits : ∀ n < 32, Text.hexPadded 4 n = ['0', '0', Text.hexDigit (n / 16), Text.hexDigit (n % 16)]
      ∧ Text.hexValue? (Text.hexDigit (n / 16)) = some (n / 16)
      ∧ Text.hexValue? (Text.hexDigit (n % 16)) = some (n % 16)
      ∧ (Text.hexDigit (n / 16)).utf8Size = 1 ∧ (Text.hexDigit (n % 16)).utf8Size = 1 := by
    decide
  obtain ⟨htext, hhigh, hlow, hhighSize, hlowSize⟩ := hdigits n h
  have hzero : Text.hexValue? '0' = some 0 ∧ ('0' : Char).utf8Size = 1 := by decide
  have hsize : ¬ (['0', '0', Text.hexDigit (n / 16), Text.hexDigit (n % 16)] ++ rest).foldr
      (fun c n => c.utf8Size + n) 0 < 4 := by
    simp only [List.cons_append, List.nil_append, List.foldr_cons, hzero, hhighSize, hlowSize]
    omega
  have hvalue : ((0 * 16 + 0) * 16 + n / 16) * 16 + n % 16 = n := by omega
  refine fun p => ⟨['0', '0', Text.hexDigit (n / 16), Text.hexDigit (n % 16)].foldl Place.after p, ?_⟩
  rw [fourHex, htext, if_neg hsize]
  simp only [List.cons_append, List.nil_append, hzero, hhigh, hlow, hvalue]

/-- An escape of one letter. -/
theorem reads_escape_letter {c d : Char} (h : unescape? d = some c) (rest : List Char) :
    Reads escape [d] c rest := by
  have hthen : Reads (do skip; return c) [d] c rest := (reads_skip d rest).take (reads_pure c rest)
  refine Reads.look (reads_peek (d :: rest)) ?_
  simpa only [List.head?_cons, h] using hthen

/-- The escape of a control character by its number. -/
theorem reads_escape_number {c : Char} (h : c.toNat < 32) (rest : List Char) :
    Reads escape ('u' :: Text.hexPadded 4 c.toNat) c rest := by
  have hnumber : Reads numericEscape (Text.hexPadded 4 c.toNat) c rest := by
    refine (reads_fourHex h rest).before ?_
    rw [if_neg (by omega), if_pos (by omega), Char.ofNat_toNat]
    exact reads_pure c rest
  have hletter : unescape? 'u' = none := by decide
  refine Reads.look (reads_peek ('u' :: (Text.hexPadded 4 c.toNat ++ rest))) ?_
  simp only [List.head?_cons, hletter]
  exact (reads_skip 'u' _).take hnumber

/-- **One character of a string is read back,** escaped or not. -/
theorem reads_stringTail_cons {c : Char} {s cs rest : List Char} {budget : Nat}
    (h : Reads (stringTail budget) cs s rest) :
    Reads (stringTail (budget + 1)) (escapeChar c ++ cs) (c :: s) rest := by
  have hthen := h.map (c :: ·)
  have hescaped : ∀ ds, Reads escape ds c (cs ++ rest) →
      Reads (stringTail (budget + 1)) ('\\' :: ds ++ cs) (c :: s) rest := by
    intro ds hds
    refine (reads_next '\\' _).take ?_
    dsimp only
    rw [if_neg (by decide), if_pos rfl]
    exact hds.bind hthen
  have hletter : ∀ d, unescape? d = some c →
      Reads (stringTail (budget + 1)) (['\\', d] ++ cs) (c :: s) rest :=
    fun d hd => hescaped [d] (reads_escape_letter hd _)
  unfold escapeChar
  split_ifs with hquote hslash hline hreturn htab hback hform hcontrol
  · exact hletter '"' (by rw [hquote]; decide)
  · exact hletter '\\' (by rw [hslash]; decide)
  · exact hletter 'n' (by rw [hline]; decide)
  · exact hletter 'r' (by rw [hreturn]; decide)
  · exact hletter 't' (by rw [htab]; decide)
  · exact hletter 'b' (by rw [← Char.ofNat_toNat c, hback]; decide)
  · exact hletter 'f' (by rw [← Char.ofNat_toNat c, hform]; decide)
  · exact hescaped _ (reads_escape_number hcontrol _)
  · refine (reads_next c _).take ?_
    dsimp only
    rw [if_neg hquote, if_neg hslash, if_neg hcontrol]
    exact hthen

/-- The inside of a string and its closing quote are read back. -/
theorem reads_stringTail (s rest : List Char) {budget : Nat} (h : s.length < budget) :
    Reads (stringTail budget) (s.flatMap escapeChar ++ ['"']) s rest := by
  induction s generalizing budget with
  | nil =>
    cases budget with
    | zero => exact absurd h (by simp)
    | succ budget =>
      refine (reads_next '"' _).take ?_
      dsimp only
      rw [if_pos rfl]
      exact reads_pure [] rest
  | cons c s ih =>
    cases budget with
    | zero => exact absurd h (by simp)
    | succ budget =>
      rw [List.flatMap_cons, List.append_assoc]
      exact reads_stringTail_cons (ih (by simpa using h))

theorem length_le_length_flatMap_escapeChar (s : List Char) : s.length ≤ (s.flatMap escapeChar).length := by
  induction s with
  | nil => simp
  | cons c s ih =>
    have hone : 1 ≤ (escapeChar c).length := by
      unfold escapeChar
      split_ifs <;> simp
    rw [List.flatMap_cons, List.length_append, List.length_cons]
    omega

/-- **Every string is read back,** whatever its characters. -/
theorem reads_string (s : String) (rest : List Char) :
    Reads string (s.toList.flatMap escapeChar ++ ['"']) s rest := by
  have hbudget : s.toList.length < (s.toList.flatMap escapeChar ++ ['"'] ++ rest).length := by
    have := length_le_length_flatMap_escapeChar s.toList
    simp only [List.length_append, List.length_cons]
    omega
  have h := (reads_stringTail s.toList rest hbudget).map String.ofList
  rw [String.ofList_toList] at h
  exact Reads.look (reads_budget _) h

/-! ### Integers -/

/-- Only the digits of zero start with a zero. -/
theorem toDigits_eq_zero_cons {n : Nat} {cs : List Char} (h : Nat.toDigits 10 n = '0' :: cs) :
    n = 0 ∧ cs = [] := by
  induction n using Nat.base_induction 10 (by decide) generalizing cs with
  | single m hm =>
    have hzero : ∀ m < 10, m.digitChar = '0' → m = 0 := by decide
    rw [Nat.toDigits_of_lt_base hm, List.cons.injEq] at h
    exact ⟨hzero m hm h.1, h.2.symm⟩
  | digit m k hk hm ih =>
    rw [← Nat.toDigits_append_toDigits (by decide) hm hk] at h
    obtain ⟨d, ds, hds⟩ := List.exists_cons_of_ne_nil (Nat.toDigits_ne_nil (n := m) (b := 10))
    rw [hds, List.cons_append, List.cons.injEq] at h
    exact absurd (ih (hds.trans (by rw [h.1]))).1 (by omega)

/-- Digits whose number fits into the significand are all taken up. -/
theorem absorb_eq {significand : Nat} {cs : List Char}
    (h : Nat.ofDigitChars 10 cs significand ≤ maxSignificand) :
    absorb significand cs = (Nat.ofDigitChars 10 cs significand, []) := by
  induction cs generalizing significand with
  | nil => rw [absorb, Nat.ofDigitChars_nil]
  | cons c cs ih =>
    rw [Nat.ofDigitChars_cons] at h ⊢
    have hle : 10 * significand + (c.toNat - '0'.toNat) ≤ maxSignificand := by
      rw [Nat.ofDigitChars_eq_ofDigitChars_zero] at h
      exact (Nat.le_mul_of_pos_left _ (by positivity)).trans ((Nat.le_add_right _ _).trans h)
    have hstep := ih h
    rwa [absorb, if_pos (show 10 * significand + (c.toNat - 48) ≤ maxSignificand from hle)]

/-- Whether no number goes on in a text. -/
def EndsNumber (rest : List Char) : Prop :=
  ∀ c ∈ rest.head?, c.isDigit = false ∧ c ≠ '.' ∧ c ≠ 'e' ∧ c ≠ 'E'

/-- What is read from the digits of an integer behind its sign; zero has no negative integer. -/
def numeralOf (positive : Bool) (n : Nat) : Numeral :=
  if positive then .unsigned n
  else if n = 0 ∨ Nat.pow 2 63 < n then .float (-Float.ofNat n)
  else .signed (-(n : Int))

/-- What follows the digits of an integer is left alone. -/
theorem reads_numeral_rest (positive : Bool) (n : Nat) {rest : List Char} (hrest : EndsNumber rest) :
    Reads (numeral.rest positive n []) [] (numeralOf positive n) rest := by
  have hpoint : rest.head? ≠ some '.' := fun h => (hrest '.' h).2.1 rfl
  have hmark : isExponentMark rest.head? = false := by
    have he : rest.head? ≠ some 'e' := fun h => (hrest 'e' h).2.2.1 rfl
    have hE : rest.head? ≠ some 'E' := fun h => (hrest 'E' h).2.2.2 rfl
    simp only [isExponentMark, he, hE, decide_false, Bool.or_self]
  refine Reads.look (reads_peek rest) ?_
  rw [if_neg hpoint]
  refine Reads.look (reads_peek rest) ?_
  rw [hmark]
  unfold numeralOf
  cases positive with
  | true => exact reads_pure _ _
  | false =>
    simp only [Bool.false_eq_true, if_false, List.isEmpty_nil, Bool.not_true]
    split
    · exact reads_pure _ _
    · exact reads_pure _ _

/-- The digits of an integer start with a digit. -/
theorem exists_digits_cons (n : Nat) : ∃ c cs, Nat.toDigits 10 n = c :: cs ∧ ∀ d ∈ c :: cs, d.isDigit := by
  obtain ⟨c, cs, hcs⟩ := List.exists_cons_of_ne_nil (Nat.toDigits_ne_nil (n := n) (b := 10))
  exact ⟨c, cs, hcs, fun d hd => Nat.isDigit_of_mem_toDigits (by decide) (by decide) (hcs ▸ hd)⟩

theorem ne_of_isDigit {c d : Char} (hc : c.isDigit) (hd : d.isDigit = false) : c ≠ d := by
  rintro rfl
  exact absurd hc (by rw [hd]; decide)

theorem isBlank_of_isDigit {c : Char} (hc : c.isDigit) : isBlank c = false := by
  simp only [isBlank, ne_of_isDigit hc (d := ' ') (by decide), ne_of_isDigit hc (d := '\n') (by decide),
    ne_of_isDigit hc (d := '\t') (by decide), ne_of_isDigit hc (d := '\r') (by decide), decide_false, Bool.or_self]

/-- **The digits of every integer that a word of 64 bits holds are read back.** -/
theorem reads_numeral (positive : Bool) {n : Nat} (hn : n ≤ maxSignificand) {rest : List Char}
    (hrest : EndsNumber rest) : Reads (numeral positive) (Nat.toDigits 10 n) (numeralOf positive n) rest := by
  obtain ⟨c, cs, hcs, hdigit⟩ := exists_digits_cons n
  have hnext : ∀ d ∈ rest.head?, d.isDigit = false := fun d hd => (hrest d hd).1
  rw [hcs]
  refine Reads.look (reads_peek _) ?_
  dsimp only [List.head?_cons, List.cons_append]
  rw [if_pos (hdigit c (List.mem_cons_self ..))]
  split_ifs with hzero
  · obtain ⟨rfl, rfl⟩ := toDigits_eq_zero_cons (hzero ▸ hcs)
    have hnone : rest.head?.any Char.isDigit = false := by
      rw [Option.any_eq_false]
      exact fun d hd => by rw [hnext d hd]
    refine (reads_skip c rest).take (Reads.look (reads_peek rest) ?_)
    rw [hnone, if_neg (by decide)]
    exact reads_numeral_rest positive 0 hrest
  · refine (reads_takeWhile hdigit hnext).before ?_
    have hvalue : Nat.ofDigitChars 10 (c :: cs) 0 = n := hcs ▸ Nat.ofDigitChars_ten_toDigits
    rw [absorb_eq (hvalue.trans_le hn), hvalue]
    exact reads_numeral_rest positive n hrest

/-- **Every integer that a word of 64 bits holds is read back.** -/
theorem reads_natural {n : Nat} (hn : n ≤ maxSignificand) {rest : List Char} (hrest : EndsNumber rest) :
    Reads natural (Nat.toDigits 10 n) n rest := by
  obtain ⟨c, cs, hcs, hdigit⟩ := exists_digits_cons n
  have hc := hdigit c (List.mem_cons_self ..)
  have hnumeral := reads_numeral true hn hrest
  rw [hcs] at hnumeral ⊢
  refine Reads.look (reads_peekPast (isBlank_of_isDigit hc)) ?_
  split
  · next h => exact absurd (Option.some.inj h) (ne_of_isDigit hc (by decide))
  · next h =>
    obtain rfl := Option.some.inj h
    rw [if_pos hc]
    exact hnumeral.before (reads_pure n rest)
  · next h => exact absurd h (Option.some_ne_none c)

end Reader
end Json
end ScriptImport
