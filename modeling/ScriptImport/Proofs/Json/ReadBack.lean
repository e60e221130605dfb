/-
# JSON values are read back

Reading the compact text of a JSON value gives the value back, if it can be a value that was read (`Readable`): its
numbers are integers of a machine word, the keys of its objects are in order, and no more arrays and objects are inside
one another than may be open at a time (`parse_text`).

The induction follows the value.  What is inside an array or object is read with one bracket less to spare, and in
front of a comma or a closing bracket, where every number ends.
-/

import ScriptImport.Proofs.Dict
import ScriptImport.Proofs.Json.Members

namespace ScriptImport
namespace Json

/-- Values that are read as they were written, with at most `n` arrays and objects open at a time. -/
inductive Readable : (n : Nat) → Json → Prop
  | null {n : Nat} : Readable n .null
  | bool {n : Nat} (b : Bool) : Readable n (.bool b)
  | integer {n : Nat} {k : Int} (hlow : -(2 ^ 63 : Nat) ≤ k) (hhigh : k ≤ maxSignificand) : Readable n (.integer k)
  | string {n : Nat} (s : String) : Readable n (.string s)
  | array {n : Nat} {items : List Json} (h : ∀ j ∈ items, Readable n j) : Readable (n + 1) (.array items)
  | object {n : Nat} {members : List (String × Json)} (hordered : Dict.Ordered members)
      (h : ∀ m ∈ members, Readable n m.2) : Readable (n + 1) (.object members)

theorem Readable.mono {n n' : Nat} {j : Json} (h : Readable n j) (hn : n ≤ n') : Readable n' j := by
  induction h generalizing n' with
  | null => exact .null
  | bool b => exact .bool b
  | integer hlow hhigh => exact .integer hlow hhigh
  | string s => exact .string s
  | array _ ih =>
    obtain ⟨n', rfl⟩ := Nat.exists_eq_succ_of_ne_zero (Nat.ne_zero_of_lt hn)
    exact .array fun j hj => ih j hj (Nat.le_of_succ_le_succ hn)
  | object hordered _ ih =>
    obtain ⟨n', rfl⟩ := Nat.exists_eq_succ_of_ne_zero (Nat.ne_zero_of_lt hn)
    exact .object hordered fun m hm => ih m hm (Nat.le_of_succ_le_succ hn)

/-! ### The text of arrays -/

/-- The items of an array, each with what stands in front of it. -/
def itemsText (first : Bool) : List Json → List Char
  | [] => []
  | v :: vs => lead first ++ (compact v ++ itemsText false vs)

/-- **The compact text of items** prints them one by one. -/
theorem compactItems_eq : ∀ vs : List Json, compactItems vs = itemsText true vs
  | [] => rfl
  | [v] => by simp [compactItems, itemsText, lead]
  | v :: w :: vs => by
    rw [compactItems, compactItems_eq (w :: vs), itemsText]
    · simp [itemsText, lead]
    · simp

/-- The text of an integer. -/
theorem compact_integer (k : Int) : compact (.integer k) =
    (if k < 0 then ['-'] else []) ++ Nat.toDigits 10 k.natAbs := by
  cases k with
  | ofNat n => simp [compact, Int.repr_eq_if, Nat.repr_eq_ofList_toDigits]
  | negSucc n => simp [compact, Int.repr_eq_if, Nat.repr_eq_ofList_toDigits]

/-- A value starts with a character that is no blank and closes nothing. -/
theorem exists_compact_cons {n : Nat} {j : Json} (h : Readable n j) :
    ∃ c cs, compact j = c :: cs ∧ Reader.isBlank c = false ∧ c ≠ ']' := by
  cases h with
  | null => exact ⟨'n', _, rfl, by decide, by decide⟩
  | bool b => cases b <;> exact ⟨_, _, rfl, by decide, by decide⟩
  | @integer n k hlow hhigh =>
    rw [compact_integer]
    split
    · exact ⟨'-', _, rfl, by decide, by decide⟩
    · obtain ⟨c, cs, hcs, hdigit⟩ := Reader.exists_digits_cons k.natAbs
      have hc := hdigit c (List.mem_cons_self ..)
      exact ⟨c, cs, hcs, Reader.isBlank_of_isDigit hc, Reader.ne_of_isDigit hc (by decide)⟩
  | string s => exact ⟨'"', _, rfl, by decide, by decide⟩
  | array => exact ⟨'[', _, rfl, by decide, by decide⟩
  | object => exact ⟨'\x7b', _, rfl, by decide, by decide⟩

theorem length_le_length_itemsText (first : Bool) {n : Nat} {vs : List Json} (h : ∀ j ∈ vs, Readable n j) :
    vs.length ≤ (itemsText first vs).length := by
  induction vs generalizing first with
  | nil => simp
  | cons v vs ih =>
    obtain ⟨c, cs, hcs, -⟩ := exists_compact_cons (h v (List.mem_cons_self ..))
    have := ih false fun j hj => h j (List.mem_cons_of_mem _ hj)
    simp only [itemsText, hcs, List.length_append, List.length_cons]
    omega

namespace Reader

theorem reads_word (cs rest : List Char) : Reads (word cs) cs () rest := by
  induction cs with
  | nil => exact reads_pure () rest
  | cons c cs ih =>
    refine Reads.look (reads_peek _) ?_
    dsimp only [List.head?_cons, List.cons_append]
    rw [if_neg (not_not.2 rfl)]
    exact (reads_skip c _).take ih

/-- What stands in front of an item. -/
theorem reads_moreItems {first : Bool} {c : Char} {rest : List Char} (hblank : isBlank c = false) (hc : c ≠ ']') :
    Reads (moreItems first) (lead first) true (c :: rest) := by
  cases first with
  | true =>
    refine Reads.look (reads_peekPast hblank) ?_
    dsimp only
    rw [if_neg hc]
    exact reads_pure true _
  | false =>
    refine Reads.look (reads_peekPast (by decide)) ?_
    dsimp only
    rw [if_neg (by decide), if_neg (by decide), if_pos rfl]
    refine (reads_skip ',' _).take (Reads.look (reads_peekPast hblank) ?_)
    dsimp only
    rw [if_neg hc]
    exact reads_pure true _

theorem reads_moreItems_end (first : Bool) (rest : List Char) :
    Reads (moreItems first) [] false (']' :: rest) :=
  Reads.look (reads_peekPast (by decide)) (reads_pure false _)

/-- **Items are read back** if each one is, up to the bracket that closes the array. -/
theorem reads_items {n : Nat} {item : Reader Json} {vs : List Json} (hreadable : ∀ j ∈ vs, Readable n j)
    (hitem : ∀ j ∈ vs, ∀ rest, EndsNumber rest → Reads item (compact j) j rest)
    (rest : List Char) (first : Bool) {budget : Nat} (hbudget : vs.length < budget) :
    Reads (items item first budget) (itemsText first vs) vs (']' :: rest) := by
  induction vs generalizing first budget with
  | nil =>
    cases budget with
    | zero => exact absurd hbudget (by simp)
    | succ budget => exact Reads.look (reads_moreItems_end first rest) (reads_pure [] _)
  | cons v vs ih =>
    cases budget with
    | zero => exact absurd hbudget (by simp)
    | succ budget =>
      have hvs := ih (fun j hj => hreadable j (List.mem_cons_of_mem _ hj))
        (fun j hj => hitem j (List.mem_cons_of_mem _ hj)) false (Nat.lt_of_succ_lt_succ hbudget)
      have hend : EndsNumber (itemsText false vs ++ ']' :: rest) := by
        cases vs <;> simp [EndsNumber, itemsText, lead]
      have hv := hitem v (List.mem_cons_self ..) _ hend
      obtain ⟨c, cs, hcs, hblank, hc⟩ := exists_compact_cons (hreadable v (List.mem_cons_self ..))
      have hmore : Reads (moreItems first) (lead first) true
          (compact v ++ itemsText false vs ++ ']' :: rest) := by
        rw [hcs]
        exact reads_moreItems hblank hc
      exact hmore.bind (hv.bind (hvs.map (v :: ·)))

/-! ### Values -/

variable {inner : Option (Reader Json)} {rest : List Char}

/-- Integers are read back: behind a minus sign, or from their first digit on. -/
theorem reads_integer {k : Int} (hlow : -(2 ^ 63 : Nat) ≤ k) (hhigh : k ≤ maxSignificand)
    (hrest : EndsNumber rest) : Reads (valueWith inner) (compact (.integer k)) (.integer k) rest := by
  have hword : k.natAbs ≤ maxSignificand := by
    have : (maxSignificand : Int) = 2 ^ 64 - 1 := by decide
    omega
  rw [compact_integer]
  split
  · next hneg =>
    have hvalue : (numeralOf false k.natAbs).value = .integer k := by
      have hsmall : ¬ (k.natAbs = 0 ∨ Nat.pow 2 63 < k.natAbs) := by
        rw [Nat.pow_eq]
        omega
      rw [numeralOf, if_neg (by decide), if_neg hsmall, Numeral.value]
      congr 1
      omega
    refine Reads.look (reads_peekPast (by decide)) ?_
    refine (reads_skip '-' _).take ?_
    rw [← hvalue]
    exact (reads_numeral false hword hrest).map Numeral.value
  · next hpos =>
    obtain ⟨c, cs, hcs, hdigit⟩ := exists_digits_cons k.natAbs
    have hc := hdigit c (List.mem_cons_self ..)
    have hvalue : (numeralOf true k.natAbs).value = .integer k := by
      rw [numeralOf, if_pos rfl, Numeral.value]
      congr 1
      omega
    have hnumeral := (reads_numeral true hword hrest).map Numeral.value
    rw [hcs, hvalue] at hnumeral
    rw [List.nil_append, hcs]
    refine Reads.look (reads_peekPast (isBlank_of_isDigit hc)) ?_
    split
    case h_9 d _ _ _ _ _ _ _ h =>
      obtain rfl := Option.some.inj h
      rw [if_pos hc]
      exact hnumeral
    case h_1 h => exact absurd h (Option.some_ne_none c)
    all_goals next h => exact absurd (Option.some.inj h) (ne_of_isDigit hc (by decide))

/-- The items of an array and its brackets are read back. -/
theorem reads_array {n : Nat} {item : Reader Json} {vs : List Json} (hreadable : ∀ j ∈ vs, Readable n j)
    (hitem : ∀ j ∈ vs, ∀ rest, EndsNumber rest → Reads item (compact j) j rest) :
    Reads (valueWith (some item)) (compact (.array vs)) (.array vs) rest := by
  have hbudget : vs.length < (itemsText true vs ++ ([']'] ++ rest)).length := by
    have := length_le_length_itemsText true hreadable
    simp only [List.length_append, List.length_cons]
    omega
  have hitems := reads_items hreadable hitem rest true hbudget
  rw [compact, compactItems_eq]
  refine Reads.look (reads_peekPast (by decide)) ?_
  refine (reads_skip '[' _).take (Reads.look (reads_budget _) ?_)
  simp only [List.append_eq, List.append_assoc]
  exact hitems.bind ((reads_skip ']' rest).take (reads_pure _ rest))

/-- The members of an object and its braces are read back. -/
theorem reads_object {value : Reader Json} {ms : List (String × Json)} (hordered : Dict.Ordered ms)
    (hvalue : ∀ m ∈ ms, ∀ rest, EndsNumber rest → Reads value (compact m.2) m.2 rest) :
    Reads (valueWith (some value)) (compact (.object ms)) (.object ms) rest := by
  have hbudget : ms.length < (membersText compact true ms ++ (['\x7d'] ++ rest)).length := by
    have := length_le_length_membersText compact true ms
    simp only [List.length_append, List.length_cons]
    omega
  have hmembers := reads_members compact hvalue rest true hbudget
  have hobject : Json.object (Dict.ofEntries ms) = .object ms := congrArg Json.object hordered.ofEntries_eq
  rw [compact, compactMembers_eq]
  refine Reads.look (reads_peekPast (by decide)) ?_
  refine (reads_skip '\x7b' _).take (Reads.look (reads_budget _) ?_)
  simp only [List.append_eq, List.append_assoc]
  refine hmembers.bind ((reads_skip '\x7d' rest).take ?_)
  rw [hobject]
  exact reads_pure _ rest

/-- What opens no bracket needs none to spare. -/
theorem reads_valueIn {cs : List Char} {j : Json} (h : ∀ inner, Reads (valueWith inner) cs j rest) (n : Nat) :
    Reads (valueIn n) cs j rest := by
  cases n <;> exact h _

/-- **Every readable value is read back,** with as many brackets to spare as it opens. -/
theorem reads_value {n : Nat} {j : Json} (h : Readable n j) (hrest : EndsNumber rest) :
    Reads (valueIn n) (compact j) j rest := by
  induction h generalizing rest with
  | null =>
    refine reads_valueIn (fun inner => Reads.look (reads_peekPast (by decide)) ?_) _
    exact (reads_skip 'n' _).take ((reads_word ['u', 'l', 'l'] rest).before (reads_pure _ rest))
  | bool b =>
    cases b with
    | true =>
      refine reads_valueIn (fun inner => Reads.look (reads_peekPast (by decide)) ?_) _
      exact (reads_skip 't' _).take ((reads_word ['r', 'u', 'e'] rest).before (reads_pure _ rest))
    | false =>
      refine reads_valueIn (fun inner => Reads.look (reads_peekPast (by decide)) ?_) _
      exact (reads_skip 'f' _).take ((reads_word ['a', 'l', 's', 'e'] rest).before (reads_pure _ rest))
  | integer hlow hhigh => exact reads_valueIn (fun inner => reads_integer hlow hhigh hrest) _
  | string s =>
    refine reads_valueIn (fun inner => Reads.look (reads_peekPast (by decide)) ?_) _
    exact (reads_skip '"' _).take ((reads_string s rest).map Json.string)
  | array hreadable ih => exact reads_array hreadable fun j hj _ hrest => ih j hj hrest
  | object hordered _ ih => exact reads_object hordered fun m hm _ hrest => ih m hm hrest

end Reader

/-- **What was written is read:** the text of a readable value is read as that value. -/
theorem parse_text {j : Json} (h : Readable maxOpen j) : parse j.text = .ok j :=
  Reader.whole_eq (Reader.reads_value h (by simp [Reader.EndsNumber]))

end Json
end ScriptImport
