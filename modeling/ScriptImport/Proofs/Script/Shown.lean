/-
# What is shown behind another store

The text of an array and the JSON of a value are found by walks through the store that are given as many steps
inward as the store has containers.  A walk never enters a container that it is inside of, so it needs no more
steps than that (`mem_of_full`).  Hence it is all the same if there are more steps to spare, and so the walks
show the same when the store is behind another one (`Store.display_behind`, `Store.toJson_behind`), and operators
and functions that are no scripts give the same (`Store.binary_behind`).
-/

import Mathlib.Data.Finset.Card
import ScriptImport.Proofs.Script.Behind

namespace ScriptImport
namespace Script

/-- A path of distinct things that is as long as there are things goes through all of them. -/
theorem mem_of_full {α : Type} [DecidableEq α] {path : List α} {all : Finset α} (hnodup : path.Nodup)
    (hall : ∀ a ∈ path, a ∈ all) (hfull : all.card ≤ path.length) {a : α} (ha : a ∈ all) : a ∈ path := by
  have hsubset : path.toFinset ⊆ all := fun a ha => hall a (List.mem_toFinset.1 ha)
  rw [← List.toFinset_card_of_nodup hnodup] at hfull
  exact List.mem_toFinset.1 (Finset.eq_of_subset_of_card_le hsubset hfull ▸ ha)

/-! ### Texts -/

theorem showWith_behind {k : Extent} {show₁ show₂ : ArrayId → String}
    (h : ∀ a, show₂ (k.arrays + a) = show₁ a) (v : Value) : showWith show₂ (v.behind k) = showWith show₁ v := by
  cases v with
  | array a => exact h a
  | _ => rfl

theorem showItem_behind {k : Extent} {show₁ show₂ : ArrayId → String}
    (h : ∀ a, show₂ (k.arrays + a) = show₁ a) (v : Value) : showItem show₂ (v.behind k) = showItem show₁ v := by
  cases v with
  | array a => exact h a
  | _ => rfl

namespace Store

variable (old : Store) {s : Store}

/-- A walk shows nothing of an array that it is inside of, or that has no items. -/
theorem joinIn_eq_empty {budget : Nat} {path : List ArrayId} {a : ArrayId} (h : a ∈ path ∨ s.array a = [])
    (separator : String) : s.joinIn budget path separator a = "" := by
  cases budget with
  | zero => rfl
  | succ budget =>
    rw [joinIn]
    split
    · rfl
    · rw [h.resolve_left ‹_›]
      rfl

theorem lt_size_of_array_ne_nil {a : ArrayId} (h : s.array a ≠ []) : a < s.arrays.size := by
  by_contra hle
  exact h (by simp [array, Array.getD, hle])

/-- Inside as many arrays as there are, there is nothing more to show. -/
theorem mem_or_array_eq_nil {path : List ArrayId} (hnodup : path.Nodup) (hpath : ∀ a ∈ path, a < s.arrays.size)
    (hfull : s.arrays.size ≤ path.length) (a : ArrayId) : a ∈ path ∨ s.array a = [] := by
  refine or_iff_not_imp_right.2 fun hitems => ?_
  have hall : ∀ a ∈ path, a ∈ Finset.range s.arrays.size := fun a ha => Finset.mem_range.2 (hpath a ha)
  exact mem_of_full hnodup hall (by rwa [Finset.card_range]) (Finset.mem_range.2 (lt_size_of_array_ne_nil hitems))

/-- Steps to spare change nothing. -/
theorem joinIn_behind (s : Store) (spare : Nat) {budget : Nat} {path : List ArrayId} (hnodup : path.Nodup)
    (hpath : ∀ a ∈ path, a < s.arrays.size) (hbudget : s.arrays.size ≤ path.length + budget)
    (separator : String) (a : ArrayId) :
    (old.behind s).joinIn (budget + spare) (path.map (old.extent.arrays + ·)) separator (old.extent.arrays + a)
      = s.joinIn budget path separator a := by
  have hmem {path : List ArrayId} {a : ArrayId} :
      old.extent.arrays + a ∈ path.map (old.extent.arrays + ·) ↔ a ∈ path :=
    List.mem_map_of_injective fun _ _ => Nat.add_left_cancel
  induction budget generalizing path separator a with
  | zero =>
    have hempty := mem_or_array_eq_nil hnodup hpath hbudget a
    refine joinIn_eq_empty ?_ separator
    rwa [hmem, array_behind, List.map_eq_nil_iff]
  | succ budget ih =>
    by_cases hinside : a ∈ path
    · rw [joinIn_eq_empty (.inl hinside), joinIn_eq_empty (.inl (hmem.2 hinside))]
    · rw [Nat.succ_add, joinIn, joinIn, if_neg hinside, if_neg (mt hmem.1 hinside), array_behind, List.map_map]
      refine congrArg _ (List.map_congr_left fun v hv => showItem_behind (fun inner => ?_) v)
      have ha : a < s.arrays.size := lt_size_of_array_ne_nil (List.ne_nil_of_mem hv)
      exact ih (List.nodup_cons.2 ⟨hinside, hnodup⟩) (List.forall_mem_cons.2 ⟨ha, hpath⟩)
        (by rw [List.length_cons]; omega) "," inner

theorem join_behind (s : Store) (separator : String) (a : ArrayId) :
    (old.behind s).join separator (old.extent.arrays + a) = s.join separator a := by
  have hsize : (old.behind s).arrays.size = s.arrays.size + old.arrays.size := by
    simp [behind, Nat.add_comm]
  rw [join, join, hsize]
  exact joinIn_behind old s _ List.nodup_nil (fun _ h => absurd h List.not_mem_nil) (by simp) separator a

/-- **A value has the same text behind another store.** -/
theorem display_behind (s : Store) (v : Value) : (old.behind s).display (v.behind old.extent) = s.display v :=
  showWith_behind (join_behind old s ",") v

theorem key_behind (s : Store) (v : Value) : (old.behind s).key (v.behind old.extent) = s.key v :=
  display_behind old s v

/-- An error has the same message behind another store. -/
theorem message_behind (s : Store) (e : EvalError) :
    (e.behind old.extent).message (old.behind s) = e.message s := by
  cases e with
  | thrown v => exact congrArg ("Uncaught " ++ ·) (display_behind old s v)
  | _ => rfl

/-! ### JSON -/

/-- A container behind what fills `k`. -/
def Container.behind (k : Extent) : Container → Container
  | .array a => .array (k.arrays + a)
  | .object o => .object (k.objects + o)

theorem Container.behind_injective (k : Extent) : Function.Injective (Container.behind k) := by
  intro c c' h
  cases c <;> cases c' <;> simp_all [Container.behind]

/-- The containers of a store. -/
def containers (s : Store) : Finset Container :=
  (Finset.range s.arrays.size).image .array ∪ (Finset.range s.objects.size).image .object

theorem card_containers_le (s : Store) : s.containers.card ≤ s.arrays.size + s.objects.size := by
  refine (Finset.card_union_le ..).trans (Nat.add_le_add ?_ ?_)
  · exact Finset.card_image_le.trans (Finset.card_range _).le
  · exact Finset.card_image_le.trans (Finset.card_range _).le

theorem array_mem_containers {a : ArrayId} (h : a < s.extent.arrays) : .array a ∈ s.containers :=
  Finset.mem_union_left _ (Finset.mem_image_of_mem _ (Finset.mem_range.2 h))

theorem object_mem_containers {o : ObjectId} (h : o < s.extent.objects) : .object o ∈ s.containers :=
  Finset.mem_union_right _ (Finset.mem_image_of_mem _ (Finset.mem_range.2 h))

section

variable {k : Extent} {json₁ json₂ : Container → Except Misuse Json}

mutual

theorem jsonWith_behind (h : ∀ c ∈ s.containers, json₂ (c.behind k) = json₁ c) :
    ∀ {v : Value}, v.Within s.extent → jsonWith json₂ (v.behind k) = jsonWith json₁ v
  | .array _, hv => congrArg (some <$> ·) (h _ (array_mem_containers hv))
  | .object _, hv => congrArg (some <$> ·) (h _ (object_mem_containers hv))
  | .exports _ _ _, hv => congrArg ((fun ms => some (Json.object ms)) <$> ·) (jsonEntries_behind h hv)
  | .undefined, _ => rfl
  | .null, _ => rfl
  | .bool _, _ => rfl
  | .number _, _ => rfl
  | .string _, _ => rfl
  | .function _, _ => rfl
  | .native _, _ => rfl

theorem jsonEntries_behind (h : ∀ c ∈ s.containers, json₂ (c.behind k) = json₁ c) :
    ∀ {entries : List (String × Value)}, Value.AllWithin s.extent entries →
      jsonEntries json₂ (Value.behindAll k entries) = jsonEntries json₁ entries
  | [], _ => rfl
  | (key, v) :: rest, hv => by
    rw [Value.behindAll, jsonEntries, jsonEntries, jsonWith_behind h hv.1, jsonEntries_behind h hv.2]

end

theorem jsonItems_behind (h : ∀ c ∈ s.containers, json₂ (c.behind k) = json₁ c) {vs : List Value}
    (hvs : ∀ v ∈ vs, v.Within s.extent) : jsonItems json₂ (vs.map (Value.behind k)) = jsonItems json₁ vs := by
  induction vs with
  | nil => rfl
  | cons v vs ih =>
    obtain ⟨hv, hvs⟩ := List.forall_mem_cons.1 hvs
    unfold jsonItems at ih ⊢
    rw [List.map_cons, List.mapM_cons, List.mapM_cons, jsonWith_behind h hv, ih hvs]

end

theorem containerJson_of_mem {budget : Nat} {path : List Container} {c : Container} (h : c ∈ path) :
    s.containerJson budget path c = .error .circular := by
  cases budget with
  | zero => rfl
  | succ budget => cases c <;> exact if_pos h

/-- Steps to spare change nothing. -/
theorem containerJson_behind (hs : s.Closed) (spare : Nat) {budget : Nat} {path : List Container}
    (hnodup : path.Nodup) (hpath : ∀ c ∈ path, c ∈ s.containers)
    (hbudget : s.containers.card ≤ path.length + budget) {c : Container} (hc : c ∈ s.containers) :
    (old.behind s).containerJson (budget + spare) (path.map (Container.behind old.extent)) (c.behind old.extent)
      = s.containerJson budget path c := by
  have hmem {path : List Container} {c : Container} :
      c.behind old.extent ∈ path.map (Container.behind old.extent) ↔ c ∈ path :=
    List.mem_map_of_injective (Container.behind_injective old.extent)
  induction budget generalizing path c with
  | zero =>
    have hinside : c ∈ path := mem_of_full hnodup hpath hbudget hc
    rw [containerJson_of_mem hinside, containerJson_of_mem (hmem.2 hinside)]
  | succ budget ih =>
    by_cases hinside : c ∈ path
    · rw [containerJson_of_mem hinside, containerJson_of_mem (hmem.2 hinside)]
    · have hinner (c' : Container) (hc' : c' ∈ s.containers) :=
        ih (List.nodup_cons.2 ⟨hinside, hnodup⟩) (List.forall_mem_cons.2 ⟨hc, hpath⟩)
          (by rw [List.length_cons]; omega) hc'
      have hinside' := mt hmem.1 hinside
      cases c with
      | array a =>
        rw [Nat.succ_add, containerJson, if_neg hinside, ← jsonItems_behind hinner (hs.array a), ← array_behind]
        exact if_neg hinside'
      | object o =>
        rw [Nat.succ_add, containerJson, if_neg hinside,
          ← jsonEntries_behind hinner (Value.allWithin_iff.2 (hs.object o)), Value.behindAll_eq, ← object_behind]
        exact if_neg hinside'

/-- **A value has the same JSON behind another store.** -/
theorem toJson_behind (hs : s.Closed) {v : Value} (hv : v.Within s.extent) :
    (old.behind s).toJson (v.behind old.extent) = s.toJson v := by
  have hsize : (old.behind s).arrays.size + (old.behind s).objects.size
      = s.arrays.size + s.objects.size + (old.arrays.size + old.objects.size) := by
    simp only [behind, Array.size_append, Array.size_map]
    omega
  rw [toJson, toJson, hsize]
  exact jsonWith_behind (fun c hc => containerJson_behind old hs _ List.nodup_nil
    (fun _ h => absurd h List.not_mem_nil) (by simpa using card_containers_le s) hc) hv

/-! ### Operators and functions that are no scripts -/

theorem binary_behind (s : Store) (op : Syntax.BinaryOp) (a b : Value) :
    (old.behind s).binary op (a.behind old.extent) (b.behind old.extent) = (s.binary op a b).behind old.extent := by
  cases op with
  | add =>
    simp only [binary, Value.joinsText_behind, Value.toNumber_behind, display_behind]
    split <;> rfl
  | _ => simp [binary, Value.behind]

theorem binary_within (s : Store) (op : Syntax.BinaryOp) (a b : Value) {d : Extent} : (s.binary op a b).Within d := by
  cases op with
  | add => unfold binary; dsimp only; split <;> trivial
  | _ => trivial

theorem textArgument_behind (s : Store) (args : List Value) (i : Nat) :
    (old.behind s).textArgument (args.map (Value.behind old.extent)) i = s.textArgument args i := by
  rw [textArgument, textArgument, argument_behind]
  generalize argument args i = v
  cases v with
  | undefined => rfl
  | _ => exact display_behind old s _

theorem callPath_behind (s : Store) (function : PathFunction) (args : List Value) :
    (old.behind s).callPath function (args.map (Value.behind old.extent)) = s.callPath function args := by
  have htext := funext (textArgument_behind old s args)
  cases function <;> simp [callPath, htext, textArgument_behind]

theorem slice_behind (k : Extent) (text : List Char) (args : List Value) :
    slice text (args.map (Value.behind k)) = slice text args := by
  rw [slice, slice, argument_behind, argument_behind]
  cases argument args 0 <;> cases argument args 1 <;> rfl

theorem callStringMethod_behind (s : Store) (method : StringMethod) (text : String) (args : List Value) :
    (old.behind s).callStringMethod method text (args.map (Value.behind old.extent))
      = (s.callStringMethod method text args).behind old.extent := by
  cases args with
  | nil => cases method <;> rfl
  | cons v args =>
    have hslice := slice_behind old.extent text.toList (v :: args)
    rw [List.map_cons] at hslice ⊢
    cases method <;> simp [callStringMethod, display_behind, hslice, Value.behind]

theorem callStringMethod_within (s : Store) (method : StringMethod) (text : String) (args : List Value) {d : Extent} :
    (s.callStringMethod method text args).Within d := by
  cases method <;> trivial

end Store

theorem answer_within {d : Extent} (host : Host) (q : HostQuestion) : (q.answer host).Within d := by
  obtain ⟨home, temporary, directory, environment, processId, platform, architecture⟩ := host
  cases q <;> cases home <;> cases directory <;> trivial

theorem answer_behind (k : Extent) (host : Host) (q : HostQuestion) : (q.answer host).behind k = q.answer host := by
  obtain ⟨home, temporary, directory, environment, processId, platform, architecture⟩ := host
  cases q <;> cases home <;> cases directory <;> rfl

end Script
end ScriptImport
