/-
# Productions in front of their own tokens

`Reads F p toks a fits` says of a production `p` in front of the tokens `toks`, whatever comes behind them as long as
the next token satisfies `F`: if `fits`, it takes exactly these tokens and gives `a`, and otherwise it fails because
the source is nested too deeply.  Where nothing can fail, `fits` is `True`.

What comes behind counts, because a production looks at one more token to see that it has come to its end.  So
when productions follow each other (`Reads.bind`), the tokens of the second one have to be such that the first one
ends there.
-/

import ScriptImport.Proofs.Syntax.Yields

namespace ScriptImport
namespace Syntax

/-- Rows of tokens with commas between them. -/
def commas : List (List Token) → List Token
  | [] => []
  | [row] => row
  | row :: row' :: rows => row ++ .mark .comma :: commas (row' :: rows)

/-- In front of these tokens the production takes them and gives `a` if `fits`, and otherwise finds them nested too
deeply; the next token satisfies `F`. -/
def Parser.Reads {α : Type} (F : Option Token → Prop) (p : Parser α) (toks : List Token) (a : α) (fits : Prop) :
    Prop :=
  ∀ ts rest, ts.map (·.token) = toks → F (rest.head?.map (·.token)) →
    (fits → p (ts ++ rest) = .ok (a, rest)) ∧
      (¬ fits → ∃ found, p (ts ++ rest) = .error ⟨.tooDeep, found⟩)

namespace Parser

variable {α β : Type} {F G : Option Token → Prop} {p : Parser α} {q : Parser β} {toks toks' : List Token}
  {t : Token} {a : α} {b : β} {P Q : Prop}

theorem Reads.iff (hp : Reads F p toks a P) (h : P ↔ Q) : Reads F p toks a Q := fun ts rest hts hF =>
  ⟨fun hQ => (hp ts rest hts hF).1 (h.2 hQ), fun hQ => (hp ts rest hts hF).2 fun hP => hQ (h.1 hP)⟩

theorem Reads.before (hp : Reads F p toks a P) (h : ∀ o, G o → F o) : Reads G p toks a P :=
  fun ts rest hts hG => hp ts rest hts (h _ hG)

theorem reads_pure : Reads F (pure a) [] a True := by
  intro ts rest hts _
  obtain rfl := List.map_eq_nil_iff.1 hts
  exact ⟨fun _ => rfl, fun h => absurd trivial h⟩

theorem reads_tooDeep : Reads F (fail .tooDeep) toks a False :=
  fun _ _ _ _ => ⟨False.elim, fun _ => ⟨_, rfl⟩⟩

/-- **Productions follow each other:** the first one ends where the tokens of the second one begin. -/
theorem Reads.bind {f : α → Parser β} (hp : Reads F p toks a P) (hf : Reads G (f a) toks' b Q)
    (hF : ∀ o, G o → F (toks'.head?.or o)) : Reads G (p >>= f) (toks ++ toks') b (P ∧ Q) := by
  intro ts rest hts hG
  obtain ⟨ts₁, ts₂, rfl, rfl, rfl⟩ := List.map_eq_append_iff.1 hts
  have hnext : F ((ts₂ ++ rest).head?.map (·.token)) := by
    have h := hF _ hG
    rwa [List.head?_map, ← Option.map_or, ← List.head?_append] at h
  have hfirst := hp ts₁ (ts₂ ++ rest) rfl hnext
  have hsecond := hf ts₂ rest rfl hG
  rw [List.append_assoc]
  by_cases hP : P
  · rw [bind_of_ok (hfirst.1 hP)]
    exact ⟨fun h => hsecond.1 h.2, fun h => hsecond.2 fun hQ => h ⟨hP, hQ⟩⟩
  · obtain ⟨found, hfound⟩ := hfirst.2 hP
    exact ⟨fun h => absurd h.1 hP, fun _ => ⟨found, bind_of_error hfound⟩⟩

/-- The first production cannot fail. -/
theorem Reads.andThen {f : α → Parser β} (hp : Reads F p toks a True) (hf : Reads G (f a) toks' b Q)
    (hF : ∀ o, G o → F (toks'.head?.or o)) : Reads G (p >>= f) (toks ++ toks') b Q :=
  (hp.bind hf hF).iff (true_and _).to_iff

/-- The first production takes one token. -/
theorem Reads.next {f : α → Parser β} (hp : Reads (fun _ => True) p [t] a True) (hf : Reads G (f a) toks b Q) :
    Reads G (p >>= f) (t :: toks) b Q := hp.andThen hf fun _ _ => trivial

/-- The last production takes nothing. -/
theorem Reads.last {f : α → Parser β} (hp : Reads F p toks a P) (hf : Reads G (f a) [] b True)
    (hF : ∀ o, G o → F o) : Reads G (p >>= f) toks b P := by
  have h := (hp.bind hf hF).iff (and_true _).to_iff
  rwa [List.append_nil] at h

/-- The result of a production is put into another one. -/
theorem Reads.map {f : α → β} (hp : Reads F p toks a P) : Reads F (do return f (← p)) toks (f a) P :=
  hp.last reads_pure fun _ h => h

/-! ### Looking ahead -/

/-- The first production takes nothing. -/
theorem Reads.look {f : α → Parser β}
    (hp : ∀ ts rest, ts.map (·.token) = toks → G (rest.head?.map (·.token)) →
      p (ts ++ rest) = .ok (a, ts ++ rest))
    (hf : Reads G (f a) toks b Q) : Reads G (p >>= f) toks b Q := by
  intro ts rest hts hG
  rw [bind_of_ok (hp ts rest hts hG)]
  exact hf ts rest hts hG

theorem Reads.get {f : List Located → Parser β}
    (h : ∀ ts rest, ts.map (·.token) = toks → G (rest.head?.map (·.token)) → f (ts ++ rest) = q)
    (hq : Reads G q toks b Q) : Reads G (MonadState.get >>= f) toks b Q := by
  intro ts rest hts hG
  have hrun : (MonadState.get >>= f) (ts ++ rest) = q (ts ++ rest) := by
    rw [← h ts rest hts hG]
    rfl
  rw [hrun]
  exact hq ts rest hts hG

theorem Reads.budget {f : Nat → Parser β} (h : ∀ k, toks.length ≤ k → Reads G (f k) toks b Q) :
    Reads G (budget >>= f) toks b Q := by
  intro ts rest hts hG
  refine h (ts ++ rest).length ?_ ts rest hts hG
  rw [← hts, List.length_map, List.length_append]
  exact Nat.le_add_right _ _

theorem Reads.peek {f : Option Token → Parser β} (h : Reads G (f (some t)) (t :: toks) b Q) :
    Reads G (peek >>= f) (t :: toks) b Q := by
  intro ts rest hts hG
  obtain ⟨l, ts, rfl, rfl, -⟩ := List.map_eq_cons_iff.1 hts
  exact h _ rest hts hG

/-- The next token is behind the tokens that are read. -/
theorem Reads.peekBehind {f : Option Token → Parser β} (h : ∀ o, G o → Reads G (f o) [] b Q) :
    Reads G (Parser.peek >>= f) [] b Q := by
  intro ts rest hts hG
  obtain rfl := List.map_eq_nil_iff.1 hts
  exact h _ hG [] rest rfl hG

/-- Whether the next token satisfies `w`; it is the first one of `toks`, or else the one behind them. -/
theorem Reads.sees {w : Token → Bool} {c : Bool} {f : Bool → Parser β}
    (h : ∀ o, G o → (toks.head?.or o).any w = c) (hf : Reads G (f c) toks b Q) :
    Reads G (sees w >>= f) toks b Q := by
  refine .look (fun ts rest hts hG => ?_) hf
  rw [← h _ hG, ← hts, List.head?_map, ← Option.map_or, ← List.head?_append]
  rfl

/-- Nothing is passed over. -/
theorem Reads.eatNot {w : Token → Bool} {f : Bool → Parser β} (h : ∀ o, G o → (toks.head?.or o).any w = false)
    (hf : Reads G (f false) toks b Q) : Reads G (eat w >>= f) toks b Q := by
  have hrun : (eat w >>= f) = (Parser.sees w >>= fun c => (if c then do skip; pure true else pure false) >>= f) :=
    bind_assoc ..
  rw [hrun]
  exact .sees h hf

/-! ### Single tokens -/

theorem reads_skip : Reads F skip [t] () True := by
  intro ts rest hts _
  obtain ⟨l, rfl, -⟩ := List.map_eq_singleton_iff.1 hts
  exact ⟨fun _ => rfl, fun h => absurd trivial h⟩

theorem reads_eat {w : Token → Bool} (h : w t = true) : Reads F (eat w) [t] true True :=
  Reads.sees (c := true) (fun _ _ => h) (reads_skip.next reads_pure)

theorem reads_demand {w : Token → Bool} (h : w t = true) (fault : Fault) :
    Reads F (do unless ← eat w do fail fault) [t] () True := (reads_eat h).next reads_pure

theorem reads_expectMark (m : Mark) : Reads F (expectMark m) [.mark m] () True := reads_demand (decide_eq_true rfl) _

theorem reads_expectKeyword (k : Keyword) : Reads F (expectKeyword k) [.keyword k] () True :=
  reads_demand (decide_eq_true rfl) _

theorem reads_expectWord (word : String) : Reads F (expectWord word) [.identifier word] () True :=
  reads_demand (decide_eq_true rfl) _

theorem reads_semicolon : Reads F semicolon [.mark .semicolon] () True := (reads_eat rfl).next reads_pure

theorem reads_identifier (x : String) : Reads F identifier [.identifier x] x True :=
  Reads.peek (reads_skip.next reads_pure)

theorem reads_string (s : String) : Reads F string [.string s] s True :=
  Reads.peek (reads_skip.next reads_pure)

/-! ### Lists -/

theorem length_le_commas (rows : List (List Token)) : rows.length ≤ (commas rows).length + 1 := by
  fun_induction commas rows with
  | case1 => exact Nat.zero_le _
  | case2 row => exact Nat.le_add_left _ _
  | case3 row row' rows ih =>
    rw [List.length_append, List.length_cons (a := Token.mark .comma), List.length_cons]
    omega

section Lists

variable {item : Parser α} {close : Mark} {w : α → List Token} {fits : α → Prop}

/-- Items with commas between them, up to the closing mark. -/
theorem Reads.separated (hclose : close ≠ .comma) (hF : F (some (.mark .comma))) (hF' : F (some (.mark close)))
    {xs : List α} (hitem : ∀ x ∈ xs, Reads F item (w x) x (fits x))
    (hhead : ∀ x ∈ xs, ∃ t ts, w x = t :: ts ∧ t.isMark close = false) {k : Nat} (hk : 0 < k)
    (hxs : xs.length ≤ k) :
    Reads (· = some (.mark close)) (separated item close k) (commas (xs.map w)) xs (∀ x ∈ xs, fits x) := by
  have hcomma : ∀ o, o = some (.mark close) → o.any (Token.isMark .comma) = false := by
    rintro _ rfl
    exact decide_eq_false fun h => hclose h.symm
  induction xs generalizing k with
  | nil =>
    obtain ⟨k, rfl⟩ := Nat.exists_eq_add_one.2 hk
    refine .iff (Reads.sees (c := true) ?_ reads_pure) (by simp)
    rintro _ rfl
    exact decide_eq_true rfl
  | cons x xs ih =>
    obtain ⟨k, rfl⟩ := Nat.exists_eq_add_one.2 hk
    obtain ⟨t, ts, hw, ht⟩ := hhead x (List.mem_cons_self ..)
    cases xs with
    | nil =>
      refine Reads.sees (c := false) (fun _ _ => ?_) (.iff (.last (hitem x (List.mem_cons_self ..))
        (Reads.eatNot hcomma reads_pure) ?_) (by simp))
      · rw [List.map_singleton, commas, hw]
        exact ht
      · rintro _ rfl
        exact hF'
    | cons y xs =>
      have hrest := ih (fun z hz => hitem z (List.mem_cons_of_mem _ hz))
        (fun z hz => hhead z (List.mem_cons_of_mem _ hz)) (Nat.lt_of_lt_of_le (Nat.zero_lt_succ _)
          (Nat.le_of_succ_le_succ hxs)) (Nat.le_of_succ_le_succ hxs)
      refine Reads.sees (c := false) (fun _ _ => ?_) (.iff (.bind (hitem x (List.mem_cons_self ..))
        (.next (reads_eat rfl) hrest.map) fun _ _ => hF) (by simp))
      rw [List.map_cons, List.map_cons, commas, hw]
      exact ht

/-- Items with commas between them, and the closing mark. -/
theorem Reads.listUpTo (hclose : close ≠ .comma) (hF : F (some (.mark .comma))) (hF' : F (some (.mark close)))
    {xs : List α} (hitem : ∀ x ∈ xs, Reads F item (w x) x (fits x))
    (hhead : ∀ x ∈ xs, ∃ t ts, w x = t :: ts ∧ t.isMark close = false) :
    Reads G (listUpTo item close) (commas (xs.map w) ++ [.mark close]) xs (∀ x ∈ xs, fits x) := by
  refine Reads.budget fun k hk => ?_
  have hlength := length_le_commas (xs.map w)
  rw [List.length_map] at hlength
  rw [List.length_append, List.length_singleton] at hk
  have hread := Reads.separated hclose hF hF' hitem hhead (k := k) (by omega) (by omega)
  exact .iff (.bind hread (.next (reads_expectMark close) reads_pure) fun _ _ => rfl) (and_true _).to_iff

end Lists

end Parser
end Syntax
end ScriptImport
