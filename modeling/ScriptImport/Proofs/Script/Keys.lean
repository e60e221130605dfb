/-
# Keys of arrays and objects

Writing a property changes one property of an object, or one item of an array and what fills the gap in front of it
(`Run.setProperty_cases`).  Read back, the written key has the new value, and other keys have what they had
(`distinct_keys`), with one exception: a key of an array is read as a number, and that can be written in several ways.
Keys that are spellings of one index are one item (`same_item`); the decimal numbers without leading zeros are not
(`Store.Container.not_respells_toString`).
-/

import ScriptImport.Proofs.Script.Assignment
import ScriptImport.Proofs.Script.Shown

namespace ScriptImport
namespace Script

variable {s s' : Store} {c : Store.Container} {v : Value} {key other : String}

/-! ### Indices -/

theorem index?_length : index? "length" = none := by decide

theorem index?_of_digits (hfirst : ∀ cs, key.toList ≠ '+' :: cs) (hne : key.toList ≠ [])
    (hall : key.toList.all Char.isDigit = true) :
    index? key = if Number.ofDigits key.toList < Nat.pow 2 64 then some (Number.ofDigits key.toList) else none := by
  unfold index?
  split
  next cs h => exact absurd h (hfirst cs)
  next => simp [hne, hall]

/-- **A number is read from its digits.** -/
theorem index?_toString (i : Nat) : index? (toString i) = if i < Nat.pow 2 64 then some i else none := by
  have hdigits : (toString i).toList = Nat.toDigits 10 i := by
    rw [Nat.toString_eq_ofList_toDigits, String.toList_ofList]
  have hall : (Nat.toDigits 10 i).all Char.isDigit = true :=
    List.all_eq_true.2 fun _ hc => Nat.isDigit_of_mem_toDigits (by decide) (by decide) hc
  have hread : Number.ofDigits (Nat.toDigits 10 i) = i := by
    have h := Nat.ofDigitChars_ten_toDigits (n := i)
    rwa [Nat.ofDigitChars_eq_foldl] at h
  rw [index?_of_digits, hdigits, hread]
  · intro cs h
    rw [hdigits] at h
    rw [h] at hall
    cases hall
  · rw [hdigits]
    exact Nat.toDigits_ne_nil
  · rwa [hdigits]

namespace Store

/-- A container as a value. -/
def Container.value : Container → Value
  | .array a => .array a
  | .object o => .object o

/-- Two keys that name the same item of a container: spellings of one index of an array. -/
def Container.Respells : Container → String → String → Prop
  | .array _, key, other => ∃ i, index? key = some i ∧ index? other = some i
  | .object _, _, _ => False

/-- **Numbers that are written as numbers are written do not respell each other.** -/
theorem Container.not_respells_toString {i j : Nat} (hne : i ≠ j) : ¬ c.Respells (toString i) (toString j) := by
  intro h
  cases c with
  | object o => exact h
  | array a =>
    obtain ⟨n, hi, hj⟩ := h
    rw [index?_toString] at hi hj
    split at hi <;> split at hj <;> simp_all

end Store

/-! ### Items -/

theorem getD_setAt (items : List Value) (i j : Nat) (v : Value) :
    (setAt items i v).getD j .undefined = if j = i then v else items.getD j .undefined := by
  simp only [setAt, List.getD_eq_getElem?_getD]
  grind

theorem length_setAt (items : List Value) (i : Nat) (v : Value) :
    (setAt items i v).length = max items.length (i + 1) := by
  unfold setAt
  split
  · rw [List.length_set]
    omega
  · simp only [List.length_append, List.length_replicate, List.length_singleton]
    omega

/-- The store in which an array has another item at an index. -/
def Store.withItem (s : Store) (a : ArrayId) (i : Nat) (v : Value) : Store :=
  { s with arrays := s.arrays.modify a fun items => setAt items i v }

/-- Two stores that differ in one container at most. -/
structure Store.SameBut (c : Container) (s s' : Store) : Prop where
  array : ∀ a, c ≠ .array a → s'.array a = s.array a
  object : ∀ o, c ≠ .object o → s'.object o = s.object o
  rest : s' = { s with arrays := s'.arrays, objects := s'.objects }
  extent : s'.extent = s.extent

namespace Store

theorem array_withItem (a b : ArrayId) (i : Nat) :
    (s.withItem a i v).array b = if b = a ∧ a < s.arrays.size then setAt (s.array a) i v else s.array b := by
  simp only [array, withItem, Array.getD_eq_getD_getElem?, Array.getElem?_modify]
  by_cases hsame : a = b
  · subst hsame
    by_cases hlt : a < s.arrays.size <;> simp [hlt]
  · simp [hsame, Ne.symm hsame]

theorem sameBut_withItem (a : ArrayId) (i : Nat) : s.SameBut (.array a) (s.withItem a i v) where
  array b hne := by rw [array_withItem, if_neg fun h => hne (congrArg Container.array h.1.symm)]
  object _ _ := rfl
  rest := rfl
  extent := by simp [withItem, Store.extent]

theorem sameBut_withProperty (o : ObjectId) : s.SameBut (.object o) (s.withProperty o key v) where
  array _ _ := rfl
  object o' hne := by rw [object_withProperty, if_neg fun h => hne (congrArg Container.object h.1.symm)]
  rest := rfl
  extent := by simp [withProperty, Store.extent]

theorem lt_arrays_of_mem_containers {a : ArrayId} (h : .array a ∈ s.containers) : a < s.arrays.size := by
  simpa [containers] using h

theorem lt_objects_of_mem_containers {o : ObjectId} (h : .object o ∈ s.containers) : o < s.objects.size := by
  simpa [containers] using h

end Store

/-! ### Reading and writing -/

namespace Run

variable {a : ArrayId} {o : ObjectId} {i : Nat}

theorem run_getProperty_object (o : ObjectId) (key : String) (s : Store) :
    (getProperty (.object o) key).run s = (.ok ((Dict.get? (s.object o) key).getD .undefined), s) := rfl

theorem run_getProperty_index (h : index? key = some i) (a : ArrayId) (s : Store) :
    (getProperty (.array a) key).run s = (.ok ((s.array a).getD i .undefined), s) := by
  have hlength : key ≠ "length" := by
    rintro rfl
    cases index?_length.symm.trans h
  change (arrayProperty a key).run s = _
  simp only [arrayProperty, if_neg hlength, h]
  rfl

/-- What an array has under a key that is no index does not depend on its items. -/
theorem getProperty_congr (h : index? key = none) (hlength : key ≠ "length") (hids : s'.identities = s.identities)
    (a : ArrayId) : ((getProperty (.array a) key).run s').1 = ((getProperty (.array a) key).run s).1 := by
  change ((arrayProperty a key).run s').1 = ((arrayProperty a key).run s).1
  simp only [arrayProperty, if_neg hlength, h]
  cases ArrayMethod.ofName? key with
  | none => rfl
  | some method =>
    -- a method is made anew each time that it is read, so the next identity has to be the same
    exact congrArg (fun n => Except.ok (Value.native ⟨n, key, .arrayMethod method a⟩)) hids

/-- **An object that was written to** has another value under one key. -/
theorem run_getProperty_withProperty (ho : o < s.objects.size) (key other : String) (v : Value) :
    (getProperty (.object o) other).run (s.withProperty o key v)
      = (.ok ((if other = key then some v else Dict.get? (s.object o) other).getD .undefined),
          s.withProperty o key v) := by
  rw [run_getProperty_object, Store.object_withProperty, if_pos ⟨rfl, ho⟩, Dict.get?_insert]

/-- **An array that was written to** has another item at one index. -/
theorem run_getProperty_withItem (ha : a < s.arrays.size) {j : Nat} (hj : index? other = some j) (i : Nat) (v : Value) :
    (getProperty (.array a) other).run (s.withItem a i v)
      = (.ok (if j = i then v else (s.array a).getD j .undefined), s.withItem a i v) := by
  rw [run_getProperty_index hj, Store.array_withItem, if_pos ⟨rfl, ha⟩, getD_setAt]

theorem setProperty_cases (a : ArrayId) (key : String) (v : Value) (s : Store) :
    (∃ i, index? key = some i ∧ (setProperty (.array a) key v).run s = (.ok (), s.withItem a i v)) ∨
      ∃ m, (setProperty (.array a) key v).run s = (.error (.misuse m), s) := by
  rw [setProperty, run_get_bind]
  cases index? key with
  | none => exact .inr ⟨_, rfl⟩
  | some i =>
    dsimp only
    split
    · exact .inr ⟨_, rfl⟩
    · exact .inl ⟨i, rfl, rfl⟩

end Run

/-- **Writing a property of an array or object.**  If it fails, then nothing has changed.  If it succeeds, then the key
has the value that was written, and every other key but a spelling of the same index has what it had, the methods of an
array among them.  No other container is changed.  An array is then long enough for the index, and not longer than
needed. -/
theorem distinct_keys (hc : c ∈ s.containers) (key : String) (v : Value) :
    (∃ s', (Run.setProperty c.value key v).run s = (.ok (), s') ∧ s.SameBut c s' ∧
        (Run.getProperty c.value key).run s' = (.ok v, s') ∧
        (∀ other ≠ key, other ≠ "length" → ¬ c.Respells key other →
          ((Run.getProperty c.value other).run s').1 = ((Run.getProperty c.value other).run s).1) ∧
        (∀ other, c.Respells key other → (Run.getProperty c.value other).run s' = (.ok v, s')) ∧
        ∀ a, c = .array a → ∃ i, index? key = some i ∧ (s'.array a).length = max (s.array a).length (i + 1)) ∨
      ∃ m, (Run.setProperty c.value key v).run s = (.error (.misuse m), s) := by
  cases c with
  | object o =>
    have hread (other : String) := Run.run_getProperty_withProperty (Store.lt_objects_of_mem_containers hc) key other v
    refine .inl ⟨s.withProperty o key v, rfl, Store.sameBut_withProperty o, ?_, fun other hne _ _ => ?_, nofun, nofun⟩
    · exact (hread key).trans (by rw [if_pos rfl]; rfl)
    · exact (congrArg Prod.fst (hread other)).trans (by rw [if_neg hne]; rfl)
  | array a =>
    rcases Run.setProperty_cases a key v s with ⟨i, hi, h⟩ | h
    · have ha := Store.lt_arrays_of_mem_containers hc
      have hsame {other : String} (hj : index? other = some i) :
          (Run.getProperty (.array a) other).run (s.withItem a i v) = (.ok v, s.withItem a i v) := by
        rw [Run.run_getProperty_withItem ha hj, if_pos rfl]
      refine .inl ⟨_, h, Store.sameBut_withItem a i, hsame hi, fun other hne hlength hother => ?_, ?_, ?_⟩
      · cases hj : index? other with
        | none =>
          have hids : (s.withItem a i v).identities = s.identities := rfl
          exact Run.getProperty_congr hj hlength hids a
        | some j =>
          have hdiff : j ≠ i := by
            rintro rfl
            exact hother ⟨j, hi, hj⟩
          change ((Run.getProperty (.array a) other).run (s.withItem a i v)).1
            = ((Run.getProperty (.array a) other).run s).1
          rw [Run.run_getProperty_withItem ha hj, if_neg hdiff, Run.run_getProperty_index hj]
      · rintro other ⟨j, hkey, hj⟩
        obtain rfl : i = j := Option.some.inj (hi.symm.trans hkey)
        exact hsame hj
      · rintro _ ⟨⟩
        exact ⟨i, hi, by rw [Store.array_withItem, if_pos ⟨rfl, ha⟩, length_setAt]⟩
    · exact .inr h

/-- An array of two items. -/
def twoItems : Store :=
  { Store.empty ⟨none, "/tmp", none, [], 1, "linux", "x64"⟩ with arrays := #[[.string "first", .string "second"]] }

/-- A write behind the end fills the gap, and `03` is the item that `3` is. -/
theorem distinct_keys_gap :
    let c : Store.Container := .array 0
    let written := (Run.setProperty c.value "3" .null).run twoItems
    c ∈ twoItems.containers ∧ written.1 = .ok () ∧ (written.2.array 0).length = 4 ∧
      (Run.getProperty c.value "3").run written.2 = (.ok .null, written.2) ∧
      (Run.getProperty c.value "03").run written.2 = (.ok .null, written.2) ∧
      ((Run.getProperty c.value "1").run written.2).1 = .ok (.string "second") := by
  intro c written
  have hc : c ∈ twoItems.containers := Store.array_mem_containers Nat.zero_lt_one
  have hapart : ¬ c.Respells "3" "1" := Store.Container.not_respells_toString (i := 3) (j := 1) (by decide)
  rcases distinct_keys hc "3" .null with ⟨s', h, -, hself, hother, hspelled, -⟩ | ⟨m, h⟩
  · obtain rfl : written.2 = s' := congrArg Prod.snd h
    exact ⟨hc, rfl, rfl, hself, hspelled "03" ⟨3, rfl, rfl⟩, hother "1" (by decide) (by decide) hapart⟩
  · cases congrArg Prod.fst h

/-- **Distinct keys, one item:** the keys `01` and `1` of an array are the same index. -/
theorem same_item :
    ((Run.setProperty (.array 0) "01" .null).run twoItems).1 = .ok () ∧
      ¬ ∀ (s s' : Store) (c : Store.Container) (key other : String) (v : Value), c ∈ s.containers → other ≠ key →
        other ≠ "length" → (Run.setProperty c.value key v).run s = (.ok (), s') →
          ((Run.getProperty c.value other).run s').1 = ((Run.getProperty c.value other).run s).1 := by
  refine ⟨rfl, fun h => ?_⟩
  cases h twoItems _ (.array 0) "01" "1" .null (Store.array_mem_containers Nat.zero_lt_one) (by decide) (by decide) rfl

end Script
end ScriptImport
