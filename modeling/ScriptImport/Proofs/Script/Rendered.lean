/-
# Texts of cyclic stores

The walks that find the text of an array and the text of a value for people are cut off where they meet a container
that they are inside of, and nowhere else.  Here the texts are said without a walk (`Store.Joins`, `Store.Inspects`):
how deep they go is not bounded, so that a value has a text at all means that writing it comes to an end.  It does,
however the containers of a store are inside one another, and what is written is what the walks give, which never get
to the end of their steps (`joins_joinIn`, `inspects_inspectIn`).

Where no array is inside itself, nothing is cut off, and the text of an array is the plain one that looks at no path
(`Store.Spells`).  All of this is put together in `Store.rendered_exact`.
-/

import Mathlib.Logic.Relation
import ScriptImport.Proofs.Script.Circular

namespace ScriptImport
namespace Script
namespace Store

open Relation

variable {s : Store} {v : Value} {a b : ArrayId} {separator text : String}

/-- The text of an array inside the arrays of `path`: nothing if it is one of them, else the texts of all of its items,
those of inner arrays with commas. -/
inductive Joins (s : Store) : (path : List ArrayId) → (separator : String) → ArrayId → String → Prop
  | cut {path : List ArrayId} {separator : String} {a : ArrayId} (h : a ∈ path) : s.Joins path separator a ""
  | full {path : List ArrayId} {separator : String} {a : ArrayId} {inner : ArrayId → String} (h : a ∉ path)
      (hitems : ∀ b, .array b ∈ s.array a → s.Joins (a :: path) "," b (inner b)) :
      s.Joins path separator a (String.intercalate separator ((s.array a).map (showItem inner)))

/-- The text of an array, wherever it is. -/
inductive Spells (s : Store) : (separator : String) → ArrayId → String → Prop
  | spell {separator : String} {a : ArrayId} {inner : ArrayId → String}
      (hitems : ∀ b, .array b ∈ s.array a → s.Spells "," b (inner b)) :
      s.Spells separator a (String.intercalate separator ((s.array a).map (showItem inner)))

/-- The text of a value for people inside the containers of `path`: an array or an object is cut off if it is one of
them, else all that is in it is shown. -/
inductive Inspects (s : Store) : (path : List Container) → Value → String → Prop
  | cut {path : List Container} {v : Value} {c : Container} (hv : v = c.value) (h : c ∈ path) :
      s.Inspects path v "[Circular]"
  | array {path : List Container} {a : ArrayId} {inner : Value → String} (h : .array a ∉ path)
      (hitems : ∀ v ∈ s.array a, s.Inspects (.array a :: path) v (inner v)) :
      s.Inspects path (.array a) ("[" ++ String.intercalate ", " ((s.array a).map inner) ++ "]")
  | object {path : List Container} {o : ObjectId} {inner : Value → String} (h : .object o ∉ path)
      (hproperties : ∀ e ∈ s.object o, s.Inspects (.object o :: path) e.2 (inner e.2)) :
      s.Inspects path (.object o) ("\x7b" ++ String.intercalate ", " ((s.object o).map fun e =>
        Text.quote e.1 ++ ": " ++ inner e.2) ++ "\x7d")
  | string {path : List Container} (t : String) : s.Inspects path (.string t) (Text.quote t)
  | exports {path : List Container} (identity : Identity) (url : String) (entries : List (String × Value)) :
      s.Inspects path (.exports identity url entries) ("[Module " ++ url ++ "]")
  | undefined {path : List Container} : s.Inspects path .undefined "undefined"
  | null {path : List Container} : s.Inspects path .null "null"
  | bool {path : List Container} (b : Bool) : s.Inspects path (.bool b) (toString b)
  | number {path : List Container} (x : Float) : s.Inspects path (.number x) (Number.text x)
  | function {path : List Container} (c : Closure) :
      s.Inspects path (.function c) ("function " ++ c.shownName ++ "() \x7b [code] \x7d")
  | native {path : List Container} (n : Native) :
      s.Inspects path (.native n) ("function " ++ n.name ++ "() \x7b [native code] \x7d")

/-- One array is an item of another one. -/
def Nests (s : Store) (a b : ArrayId) : Prop := .array b ∈ s.array a

/-! ### The text of an array -/

theorem Joins.unique {path : List ArrayId} {text' : String} (h : s.Joins path separator a text)
    (h' : s.Joins path separator a text') : text = text' := by
  induction h generalizing text' with
  | cut hin =>
    cases h' with
    | cut => rfl
    | full hout => exact absurd hin hout
  | full hout _ ih =>
    cases h' with
    | cut hin => exact absurd hin hout
    | full _ hitems =>
      exact congrArg _ (List.map_congr_left fun v hv => showItem_congr fun b hb => ih b (hb ▸ hv) (hitems b (hb ▸ hv)))

/-- The walk is never short of steps: it has one for each array that it is not inside of. -/
theorem joins_joinIn {budget : Nat} {path : List ArrayId} (hnodup : path.Nodup)
    (hpath : ∀ a ∈ path, a < s.arrays.size) (hbudget : s.arrays.size ≤ path.length + budget) (separator : String)
    (a : ArrayId) : s.Joins path separator a (s.joinIn budget path separator a) := by
  induction budget generalizing path separator a with
  | zero =>
    by_cases hin : a ∈ path
    · exact .cut hin
    · have hnil : s.array a = [] := (mem_or_array_eq_nil hnodup hpath hbudget a).resolve_left hin
      have hfull : s.Joins path separator a (String.intercalate separator ((s.array a).map (showItem fun _ => ""))) :=
        .full hin (by simp [hnil])
      rwa [hnil] at hfull
  | succ budget ih =>
    rw [joinIn]
    split
    · exact .cut ‹_›
    · next hout =>
      refine .full hout fun b hb => ?_
      have ha : a < s.arrays.size := lt_size_of_array_ne_nil (List.ne_nil_of_mem hb)
      exact ih (List.nodup_cons.2 ⟨hout, hnodup⟩) (List.forall_mem_cons.2 ⟨ha, hpath⟩)
        (by rw [List.length_cons]; omega) "," b

theorem joins_iff : s.Joins [] separator a text ↔ text = s.join separator a := by
  have h : s.Joins [] separator a (s.join separator a) := joins_joinIn List.nodup_nil nofun (by simp) separator a
  exact ⟨fun h' => h'.unique h, fun heq => heq ▸ h⟩

/-! ### Arrays that are not inside themselves -/

theorem Spells.unique {text' : String} (h : s.Spells separator a text) (h' : s.Spells separator a text') :
    text = text' := by
  induction h generalizing text' with
  | spell _ ih =>
    cases h' with
    | spell hitems =>
      exact congrArg _ (List.map_congr_left fun v hv => showItem_congr fun b hb => ih b (hb ▸ hv) (hitems b (hb ▸ hv)))

/-- Nothing is cut off, for what the path goes through contains the array. -/
theorem Joins.spells {path : List ArrayId} (h : s.Joins path separator a text)
    (hpath : ∀ p ∈ path, TransGen s.Nests p a) (hacyclic : ∀ b, ReflTransGen s.Nests a b → ¬ TransGen s.Nests b b) :
    s.Spells separator a text := by
  induction h with
  | cut hin => exact absurd (hpath _ hin) (hacyclic _ .refl)
  | full _ _ ih =>
    refine .spell fun b hb => ih b hb (List.forall_mem_cons.2 ⟨.single hb, fun p hp => (hpath p hp).tail hb⟩) ?_
    exact fun c hc => hacyclic c (.head hb hc)

theorem spells_iff (hacyclic : ∀ b, ReflTransGen s.Nests a b → ¬ TransGen s.Nests b b) :
    s.Spells separator a text ↔ text = s.join separator a := by
  have h : s.Spells separator a (s.join separator a) := (joins_iff.2 rfl).spells nofun hacyclic
  exact ⟨fun h' => h'.unique h, fun heq => heq ▸ h⟩

/-! ### The text for people -/

theorem Inspects.unique {path : List Container} {text' : String} (h : s.Inspects path v text)
    (h' : s.Inspects path v text') : text = text' := by
  induction h generalizing text' with
  | @cut path v c hv hin =>
    cases c with
    | array a =>
      subst hv
      cases h' with
      | cut => rfl
      | array hout => exact absurd hin hout
    | object o =>
      subst hv
      cases h' with
      | cut => rfl
      | object hout => exact absurd hin hout
  | @array path a inner hout _ ih =>
    cases h' with
    | @cut _ _ c hv hin =>
      cases c with
      | array a => exact absurd (Value.array.inj hv ▸ hin) hout
      | object o => cases hv
    | array _ hitems =>
      have hinner := List.map_congr_left fun v hv => ih v hv (hitems v hv)
      rw [hinner]
  | @object path o inner hout _ ih =>
    cases h' with
    | @cut _ _ c hv hin =>
      cases c with
      | array a => cases hv
      | object o => exact absurd (Value.object.inj hv ▸ hin) hout
    | @object _ _ inner' _ hproperties =>
      have hinner : ∀ e ∈ s.object o, Text.quote e.1 ++ ": " ++ inner e.2 = Text.quote e.1 ++ ": " ++ inner' e.2 :=
        fun e he => congrArg _ (ih e he (hproperties e he))
      rw [List.map_congr_left hinner]
  | _ =>
    cases h' with
    | @cut _ _ c hv =>
      cases c <;> cases hv
    | _ => rfl

/-- The walk is never short of steps: it has one for each container that it is not inside of. -/
theorem inspects_inspectIn (hs : s.Closed) {budget : Nat} {path : List Container} (hnodup : path.Nodup)
    (hpath : ∀ c ∈ path, c ∈ s.containers) (hbudget : s.containers.card ≤ path.length + budget)
    (hv : v.Within s.extent) : s.Inspects path v (s.inspectIn budget path v) := by
  induction budget generalizing path v with
  | zero =>
    have hcut (c : Container) (hc : v = c.value) : s.Inspects path v "[Circular]" :=
      .cut hc (mem_of_full hnodup hpath hbudget (value_within_iff.1 (hc ▸ hv)))
    cases v with
    | array a => exact hcut (.array a) rfl
    | object o => exact hcut (.object o) rfl
    | _ => constructor
  | succ budget ih =>
    have hinner (c : Container) (hc : c ∉ path) (hmem : c ∈ s.containers) {w : Value} (hw : w.Within s.extent) :
        s.Inspects (c :: path) w (s.inspectIn budget (c :: path) w) :=
      ih (List.nodup_cons.2 ⟨hc, hnodup⟩) (List.forall_mem_cons.2 ⟨hmem, hpath⟩)
        (by rw [List.length_cons]; omega) hw
    cases v with
    | array a =>
      rw [inspectIn]
      split
      · exact .cut rfl ‹_›
      · next hout => exact .array hout fun w hw => hinner _ hout (array_mem_containers hv) (hs.array a w hw)
    | object o =>
      rw [inspectIn]
      split
      · exact .cut rfl ‹_›
      · next hout => exact .object hout fun e he => hinner _ hout (object_mem_containers hv) (hs.object o e he)
    | _ => constructor

theorem inspects_iff (hs : s.Closed) (hv : v.Within s.extent) : s.Inspects [] v text ↔ text = s.inspect v := by
  have h : s.Inspects [] v (s.inspect v) :=
    inspects_inspectIn hs List.nodup_nil nofun (by simpa using card_containers_le s) hv
  exact ⟨fun h' => h'.unique h, fun heq => heq ▸ h⟩

/-- **Texts have an end, and only what is inside itself is cut off.**  However arrays and objects hold one another, an
array has one text, in which an inner array is nothing if and only if the text is already inside of it, and is written
in full with commas otherwise.  So a value has one text for people, where a container is cut off if and only if the text
is already inside of it.  If no array that is met contains itself, the text is the plain one. -/
theorem rendered_exact (hs : s.Closed) :
    (∀ separator a text, s.Joins [] separator a text ↔ text = s.join separator a) ∧
      (∀ a text, s.Joins [] "," a text ↔ text = s.display (.array a)) ∧
      (∀ v, v.Within s.extent → ∀ text, s.Inspects [] v text ↔ text = s.inspect v) ∧
      ∀ a, (∀ b, ReflTransGen s.Nests a b → ¬ TransGen s.Nests b b) →
        ∀ separator text, s.Spells separator a text ↔ text = s.join separator a :=
  ⟨fun _ _ _ => joins_iff, fun _ _ => joins_iff, fun _ hv _ => inspects_iff hs hv,
    fun _ hacyclic _ _ => spells_iff hacyclic⟩

/-- Two arrays that contain each other, and one that both contain and that contains an object which contains itself. -/
def entangled : Store :=
  { Store.empty ⟨none, "/tmp", none, [], 1, "linux", "x64"⟩ with
    arrays := #[[.array 1, .array 2, .array 2], [.array 0, .string "x", .array 2], [.null, .object 0]]
    objects := #[[("list", .array 2), ("self", .object 0)]] }

/-- The shared array is written each time; the others are cut off inside themselves. -/
theorem rendered_exact_entangled :
    let s := entangled
    s.Closed ∧ Value.Within s.extent (.array 2) ∧
      s.Joins [] "; " 0 ",x,,[object Object]; ,[object Object]; ,[object Object]" ∧
      s.Inspects [] (.array 2) "[null, \x7b\"list\": [Circular], \"self\": [Circular]\x7d]" ∧
      (∀ b, ReflTransGen s.Nests 2 b → ¬ TransGen s.Nests b b) ∧ s.Spells "," 2 ",[object Object]" := by
  intro s
  have hs : s.Closed := by
    constructor
    · simp [s, entangled, Store.empty, extent, Value.Within]
    · simp only [s, entangled, List.mem_toArray, List.forall_mem_singleton]
      exact List.forall_mem_cons.2 ⟨Nat.lt_succ_self 2, List.forall_mem_singleton.2 Nat.zero_lt_one⟩
    · simp [s, entangled, Store.empty]
  have hv : Value.Within s.extent (.array 2) := Nat.lt_succ_self 2
  have hnone (b : ArrayId) : ¬ s.Nests 2 b := by simp [Nests, s, entangled, array]
  have hacyclic : ∀ b, ReflTransGen s.Nests 2 b → ¬ TransGen s.Nests b b := by
    intro b hb hcycle
    rcases hb.cases_head with rfl | ⟨c, hc, -⟩
    · obtain ⟨c, hc, -⟩ := TransGen.head'_iff.1 hcycle
      exact hnone c hc
    · exact hnone c hc
  obtain ⟨hjoin, -, hinspect, hplain⟩ := rendered_exact hs
  exact ⟨hs, hv, (hjoin _ _ _).2 (by decide), (hinspect _ hv _).2 (by decide), hacyclic,
    (hplain _ hacyclic _ _).2 (by decide)⟩

end Store
end Script
end ScriptImport
