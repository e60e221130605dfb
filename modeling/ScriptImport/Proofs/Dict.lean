/-
# Dictionaries keep their order

`Dict.Ordered` says that the keys of a dictionary go strictly up.  Whatever is inserted keeps that
(`Ordered.insertAll`), so what is made by insertions is ordered, and inserting the entries of an ordered
dictionary into nothing gives the dictionary back (`Ordered.ofEntries_eq`): an ordered dictionary is
determined by any list of its entries that it is made from.
-/

import Mathlib.Data.List.Induction
import Mathlib.Data.String.Basic
import ScriptImport.Dict

namespace ScriptImport
namespace Dict

variable {α β : Type}

/-- The keys go strictly up. -/
def Ordered (d : Dict α) : Prop := d.Pairwise fun a b => a.1 < b.1

theorem ordered_nil : Ordered ([] : Dict α) := List.Pairwise.nil

theorem eq_or_mem_of_mem_insert {d : Dict α} {key : String} {value : α} {e : String × α}
    (h : e ∈ insert d key value) : e = (key, value) ∨ e ∈ d := by
  fun_induction insert d key value with
  | case1 => exact Or.inl (List.mem_singleton.1 h)
  | case2 v rest => exact (List.mem_cons.1 h).imp_right (List.mem_cons_of_mem _)
  | case3 k v rest hne hlt => exact List.mem_cons.1 h
  | case4 k v rest hne hlt ih =>
    rcases List.mem_cons.1 h with rfl | h
    · exact Or.inr (List.mem_cons_self ..)
    · exact (ih h).imp_right (List.mem_cons_of_mem _)

theorem fst_mem_insert {d : Dict α} {key : String} {value : α} {e : String × α}
    (h : e ∈ insert d key value) : e.1 = key ∨ e ∈ d :=
  (eq_or_mem_of_mem_insert h).imp_left (congrArg Prod.fst)

theorem Ordered.insert {d : Dict α} (h : Ordered d) (key : String) (value : α) :
    Ordered (Dict.insert d key value) := by
  fun_induction Dict.insert d key value with
  | case1 => exact List.pairwise_singleton ..
  | case2 v rest => exact List.pairwise_cons.2 (List.pairwise_cons.1 h)
  | case3 k v rest hne hlt =>
    refine List.pairwise_cons.2 ⟨fun e he => ?_, h⟩
    rcases List.mem_cons.1 he with rfl | he
    · exact hlt
    · exact hlt.trans ((List.pairwise_cons.1 h).1 e he)
  | case4 k v rest hne hlt ih =>
    obtain ⟨hk, hrest⟩ := List.pairwise_cons.1 h
    refine List.pairwise_cons.2 ⟨fun e he => ?_, ih hrest⟩
    rcases fst_mem_insert he with heq | he
    · exact heq ▸ lt_of_le_of_ne (not_lt.1 hlt) (Ne.symm hne)
    · exact hk e he

theorem Ordered.insertAll {d : Dict α} (h : Ordered d) (es : List (String × α)) :
    Ordered (Dict.insertAll d es) := by
  induction es generalizing d with
  | nil => exact h
  | cons e es ih => exact ih (h.insert e.1 e.2)

theorem ordered_ofEntries (es : List (String × α)) : Ordered (ofEntries es) := ordered_nil.insertAll es

/-- A key above all others goes to the end. -/
theorem insert_eq_append {d : Dict α} {key : String} {value : α} (h : ∀ e ∈ d, e.1 < key) :
    insert d key value = d ++ [(key, value)] := by
  fun_induction insert d key value with
  | case1 => rfl
  | case2 v rest => exact absurd (h (key, v) (List.mem_cons_self ..)) (lt_irrefl key)
  | case3 k v rest hne hlt => exact absurd (h (k, v) (List.mem_cons_self ..)) (lt_asymm hlt)
  | case4 k v rest hne hlt ih => rw [ih fun e he => h e (List.mem_cons_of_mem _ he), List.cons_append]

/-- **An ordered dictionary is made of its own entries.** -/
theorem Ordered.ofEntries_eq {d : Dict α} (h : Ordered d) : ofEntries d = d := by
  have happend : ∀ (es before : Dict α), Ordered (before ++ es) →
      Dict.insertAll before es = before ++ es := by
    intro es
    induction es with
    | nil => exact fun before _ => (List.append_nil before).symm
    | cons e es ih =>
      intro before hall
      have hbefore : ∀ b ∈ before, b.1 < e.1 := fun b hb =>
        (List.pairwise_append.1 hall).2.2 b hb e (List.mem_cons_self ..)
      have hinsert : Dict.insert before e.1 e.2 = before ++ [e] := insert_eq_append hbefore
      rw [List.append_cons] at hall ⊢
      exact (congrArg (Dict.insertAll · es) hinsert).trans (ih _ hall)
  exact happend d [] h

/-- The keys are what has a value. -/
theorem mem_keys {d : Dict α} {key : String} : key ∈ keys d ↔ (get? d key).isSome := by
  rw [get?, List.lookup_isSome_iff, keys, List.mem_map]
  exact exists_congr fun e => and_congr_right fun _ => by rw [beq_iff_eq, eq_comm]

/-- Of entries that are inserted, the last one with a key counts. -/
theorem get?_insertAll (d : Dict α) (es : List (String × α)) (key : String) :
    get? (insertAll d es) key = ((es.reverse.find? (·.1 = key)).map (·.2)).or (get? d key) := by
  induction es using List.reverseRecOn with
  | nil => simp [insertAll]
  | append_singleton es e ih =>
    have hlast : insertAll d (es ++ [e]) = insert (insertAll d es) e.1 e.2 := by
      simp [insertAll]
    rw [hlast, get?_insert, ih, List.reverse_append, List.reverse_singleton, List.singleton_append,
      List.find?_cons]
    by_cases h : e.1 = key
    · simp [h]
    · simp [h, Ne.symm h]

/-- Of two dictionaries, the one that goes over the other counts first. -/
theorem get?_insertAll_of_ordered (d : Dict α) {es : Dict α} (h : Ordered es) (key : String) :
    get? (insertAll d es) key = (get? es key).or (get? d key) := by
  have hes : get? es key = (es.reverse.find? (·.1 = key)).map (·.2) := by
    conv_lhs => rw [← h.ofEntries_eq, ofEntries, get?_insertAll]
    exact Option.or_none
  rw [get?_insertAll, hes]

/-- What was erased is not found, and every other key is as before. -/
theorem get?_erase (d : Dict α) (key other : String) :
    get? (erase d key) other = if other = key then none else get? d other := by
  induction d with
  | nil => simp [erase, get?]
  | cons e d ih =>
    unfold erase get? at ih ⊢
    grind

theorem get?_of_forall_lt {d : Dict α} {key : String} (h : ∀ e ∈ d, key < e.1) : get? d key = none := by
  rw [get?, List.lookup_eq_none_iff]
  exact fun e he => by simpa using (h e he).ne

theorem get?_cons_self (e : String × α) (d : Dict α) : get? (e :: d) e.1 = some e.2 := by
  rw [get?, List.lookup_cons_self]

theorem get?_cons_of_ne {e : String × α} {key : String} (h : key ≠ e.1) (d : Dict α) :
    get? (e :: d) key = get? d key := by
  rw [get?, List.lookup_cons, beq_eq_false_iff_ne.2 h]
  rfl

/-- **Ordered dictionaries in which the same is found are the same.** -/
theorem Ordered.ext {d d' : Dict α} (h : Ordered d) (h' : Ordered d') (hget : ∀ key, get? d key = get? d' key) :
    d = d' := by
  induction d generalizing d' with
  | nil =>
    cases d' with
    | nil => rfl
    | cons e' d' => exact absurd ((hget e'.1).trans (get?_cons_self e' d')) (by simp [get?])
  | cons e d ih =>
    cases d' with
    | nil => exact absurd ((hget e.1).symm.trans (get?_cons_self e d)) (by simp [get?])
    | cons e' d' =>
      obtain ⟨hd, hrest⟩ := List.pairwise_cons.1 h
      obtain ⟨hd', hrest'⟩ := List.pairwise_cons.1 h'
      -- the first keys are the same, for neither comes before the other one
      have hkey : e.1 = e'.1 := by
        rcases lt_trichotomy e.1 e'.1 with hlt | heq | hlt
        · have hnone : get? (e' :: d') e.1 = none :=
            get?_of_forall_lt (List.forall_mem_cons.2 ⟨hlt, fun x hx => hlt.trans (hd' x hx)⟩)
          exact absurd ((get?_cons_self e d).symm.trans ((hget e.1).trans hnone)) (by simp)
        · exact heq
        · have hnone : get? (e :: d) e'.1 = none :=
            get?_of_forall_lt (List.forall_mem_cons.2 ⟨hlt, fun x hx => hlt.trans (hd x hx)⟩)
          exact absurd ((get?_cons_self e' d').symm.trans ((hget e'.1).symm.trans hnone)) (by simp)
      have hvalue : e.2 = e'.2 := by
        have heq := hget e.1
        rw [get?_cons_self, hkey, get?_cons_self] at heq
        exact Option.some.inj heq
      refine List.cons_eq_cons.2 ⟨Prod.ext hkey hvalue, ih hrest hrest' fun key => ?_⟩
      by_cases hfirst : key = e.1
      · rw [get?_of_forall_lt (hfirst ▸ hd), get?_of_forall_lt (hfirst ▸ hkey ▸ hd')]
      · have heq := hget key
        rwa [get?_cons_of_ne hfirst, get?_cons_of_ne (hkey ▸ hfirst)] at heq

theorem mem_of_get? {d : Dict α} {key : String} {value : α} (h : get? d key = some value) :
    (key, value) ∈ d := by
  obtain ⟨before, after, rfl, -⟩ := List.lookup_eq_some_iff.1 h
  exact List.mem_append_right _ (List.mem_cons_self ..)

theorem mem_or_mem_of_mem_insertAll {d : Dict α} {es : List (String × α)} {e : String × α}
    (h : e ∈ insertAll d es) : e ∈ es ∨ e ∈ d := by
  induction es generalizing d with
  | nil => exact Or.inr h
  | cons first es ih =>
    rcases ih h with h | h
    · exact Or.inl (List.mem_cons_of_mem _ h)
    · rcases eq_or_mem_of_mem_insert h with rfl | h
      · exact Or.inl (List.mem_cons_self ..)
      · exact Or.inr h

/-! ### Changing every value -/

theorem get?_mapValues (f : α → β) (d : Dict α) (key : String) :
    get? (mapValues f d) key = (get? d key).map f := by
  induction d with
  | nil => rfl
  | cons e d ih =>
    unfold get? mapValues at ih ⊢
    rw [List.map_cons, List.lookup_cons, List.lookup_cons, ih]
    split <;> rfl

theorem contains_mapValues (f : α → β) (d : Dict α) (key : String) :
    contains (mapValues f d) key = contains d key := by
  rw [contains, contains, get?_mapValues, Option.isSome_map]

theorem mapValues_eq_self {f : α → α} {d : Dict α} (h : ∀ e ∈ d, f e.2 = e.2) : mapValues f d = d := by
  unfold mapValues
  conv_rhs => rw [← List.map_id d]
  exact List.map_congr_left fun e he => Prod.ext rfl (h e he)

theorem mapValues_insert (f : α → β) (d : Dict α) (key : String) (value : α) :
    mapValues f (insert d key value) = insert (mapValues f d) key (f value) := by
  unfold mapValues
  fun_induction insert d key value <;> simp_all [insert]

theorem mapValues_insertAll (f : α → β) (d : Dict α) (es : List (String × α)) :
    mapValues f (insertAll d es) = insertAll (mapValues f d) (mapValues f es) := by
  induction es generalizing d with
  | nil => rfl
  | cons e es ih =>
    refine (ih _).trans ?_
    rw [mapValues_insert]
    rfl

end Dict
end ScriptImport
