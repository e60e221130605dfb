/-
# From values to JSON text and back

`JSON.parse` undoes `JSON.stringify`.  A value that is made of null, booleans, strings, short integers, arrays and
objects (`Store.Plain`) is written to a text, and from that text comes a value of the same shape, in new arrays and
objects (`Store.Restores`).  Undefined and functions may be in it, too; they have no JSON, so they are null where they
were items, and they are missing where they were properties.

The induction follows the value.  What is carried is `Store.ReadsBack`: a value has JSON that a text can hold, and
making values of that JSON gives the value again.  Making values only adds arrays and objects to the store, so what a
step has made is still there behind the later ones; this is said once, in `Run.Makes`.
-/

import ScriptImport.Proofs.Json.ReadBack
import ScriptImport.Proofs.Number.Integer
import ScriptImport.Proofs.Script.Circular
import ScriptImport.Proofs.Script.Plain

namespace ScriptImport
namespace Script

variable {s s' s'' : Store} {v w : Value} {n : Nat}

/-- Values that have no JSON. -/
def Value.isLeftOut : Value → Bool
  | undefined => true
  | v => v.isCallable

namespace Store

/-- Values with at most `n` arrays and objects inside one another, where numbers are short integers and the keys of
objects are in their order.  With an end to how deep they are, they are not inside themselves. -/
inductive Plain (s : Store) : (n : Nat) → Value → Prop
  | undefined {n : Nat} : s.Plain n .undefined
  | null {n : Nat} : s.Plain n .null
  | bool {n : Nat} (b : Bool) : s.Plain n (.bool b)
  | number {n : Nat} {x : Float} {k : Int} (hk : k.natAbs < Number.integerLimit) (hx : x == Float.ofInt k) :
      s.Plain n (.number x)
  | string {n : Nat} (text : String) : s.Plain n (.string text)
  | function {n : Nat} (c : Closure) : s.Plain n (.function c)
  | native {n : Nat} (f : Native) : s.Plain n (.native f)
  | array {n : Nat} {a : ArrayId} (h : ∀ v ∈ s.array a, s.Plain n v) : s.Plain (n + 1) (.array a)
  | object {n : Nat} {o : ObjectId} (hordered : Dict.Ordered (s.object o)) (h : ∀ e ∈ s.object o, s.Plain n e.2) :
      s.Plain (n + 1) (.object o)

mutual

/-- A value of the second store looks like one of the first store, but for what has no JSON. -/
inductive Restores (s s' : Store) : Value → Value → Prop
  | null : Restores s s' .null .null
  | bool (b : Bool) : Restores s s' (.bool b) (.bool b)
  | number {x y : Float} (h : x == y) : Restores s s' (.number x) (.number y)
  | string (text : String) : Restores s s' (.string text) (.string text)
  | array {a b : ArrayId} (h : RestoresItems s s' (s.array a) (s'.array b)) : Restores s s' (.array a) (.array b)
  | object {o p : ObjectId} (h : RestoresProperties s s' (s.object o) (s'.object p)) :
      Restores s s' (.object o) (.object p)

/-- Items come back; what has no JSON is null. -/
inductive RestoresItems (s s' : Store) : List Value → List Value → Prop
  | nil : RestoresItems s s' [] []
  | kept {v w : Value} {vs ws : List Value} (h : Restores s s' v w) (hs : RestoresItems s s' vs ws) :
      RestoresItems s s' (v :: vs) (w :: ws)
  | nulled {v : Value} {vs ws : List Value} (h : v.isLeftOut = true) (hs : RestoresItems s s' vs ws) :
      RestoresItems s s' (v :: vs) (.null :: ws)

/-- Properties come back; what has no JSON is missing. -/
inductive RestoresProperties (s s' : Store) : List (String × Value) → List (String × Value) → Prop
  | nil : RestoresProperties s s' [] []
  | kept {key : String} {v w : Value} {vs ws : List (String × Value)} (h : Restores s s' v w)
      (hs : RestoresProperties s s' vs ws) : RestoresProperties s s' ((key, v) :: vs) ((key, w) :: ws)
  | dropped {key : String} {v : Value} {vs ws : List (String × Value)} (h : v.isLeftOut = true)
      (hs : RestoresProperties s s' vs ws) : RestoresProperties s s' ((key, v) :: vs) ws

end

/-! ### New arrays and objects -/

/-- A store with more arrays and objects, and otherwise the same. -/
def Grown (s s' : Store) : Prop :=
  ∃ arrays objects, s' = { s with arrays := s.arrays ++ arrays, objects := s.objects ++ objects }

theorem Grown.refl (s : Store) : s.Grown s := ⟨#[], #[], by simp⟩

theorem Grown.trans (h : s.Grown s') (h' : s'.Grown s'') : s.Grown s'' := by
  obtain ⟨arrays, objects, rfl⟩ := h
  obtain ⟨arrays', objects', rfl⟩ := h'
  exact ⟨arrays ++ arrays', objects ++ objects', by simp [Array.append_assoc]⟩

theorem Grown.array_eq (h : s.Grown s') {a : ArrayId} (ha : a < s.arrays.size) : s'.array a = s.array a := by
  obtain ⟨arrays, objects, rfl⟩ := h
  simp [array, Array.getElem?_append_left ha]

theorem Grown.object_eq (h : s.Grown s') {o : ObjectId} (ho : o < s.objects.size) : s'.object o = s.object o := by
  obtain ⟨arrays, objects, rfl⟩ := h
  simp [object, Array.getElem?_append_left ho]

end Store

namespace Run

variable {α β : Type} {P : Store → α → Prop} {Q : Store → β → Prop} {x : Run α}

/-- A step that fails in no store and only adds arrays and objects.  What is said of its result is so from then on,
however many arrays and objects are added later. -/
def Makes (P : Store → α → Prop) (x : Run α) : Prop :=
  ∀ s : Store, ∃ a s', x.run s = (.ok a, s') ∧ s.Grown s' ∧ ∀ s'', s'.Grown s'' → P s'' a

theorem makes_pure {a : α} (h : ∀ s, P s a) : Makes P (pure a) := fun s => ⟨a, s, rfl, .refl s, fun s' _ => h s'⟩

/-- **One step after the other:** the second one may use what is so of the result of the first one. -/
theorem Makes.bind {f : α → Run β} (hx : Makes P x) (hf : ∀ a, Makes (fun s b => P s a → Q s b) (f a)) :
    Makes Q (x >>= f) := by
  intro s
  obtain ⟨a, s', ha, hs', hP⟩ := hx s
  obtain ⟨b, s'', hb, hs'', hQ⟩ := hf a s'
  refine ⟨b, s'', ?_, hs'.trans hs'', fun t ht => hQ t ht (hP t (hs''.trans ht))⟩
  rw [run_bind, ha]
  exact hb

theorem Makes.imp {P' : Store → α → Prop} (hx : Makes P x) (h : ∀ s a, P s a → P' s a) : Makes P' x := by
  intro s
  obtain ⟨a, s', hrun, hs', hP⟩ := hx s
  exact ⟨a, s', hrun, hs', fun s'' hs'' => h s'' a (hP s'' hs'')⟩

/-- What is made of a result. -/
theorem Makes.map (hx : Makes P x) {f : α → β} (hf : ∀ s a, P s a → Q s (f a)) :
    Makes Q (do return f (← x)) := hx.bind fun a => makes_pure fun s => hf s a

theorem makes_newArray (items : List Value) : Makes (fun s v => ∃ a, v = .array a ∧ s.array a = items)
    (newArray items) := by
  refine fun s => ⟨_, _, rfl, ⟨#[items], #[], by simp⟩, fun s' hs' => ⟨_, rfl, ?_⟩⟩
  rw [hs'.array_eq (by simp)]
  simp [Store.array]

theorem makes_newObject (properties : Dict Value) : Makes (fun s o => s.object o = properties)
    (newObject properties) := by
  refine fun s => ⟨_, _, rfl, ⟨#[], #[properties], by simp⟩, fun s' hs' => ?_⟩
  dsimp only
  rw [hs'.object_eq (by simp)]
  simp [Store.object]

end Run

namespace Store

open Json (Readable)

/-- A value is written, if it has JSON, and read back. -/
def ReadsBack (s : Store) (n : Nat) (v : Value) : Prop :=
  ∃ j, s.Writes v j ∧ (j = none ↔ v.isLeftOut = true) ∧
    ∀ k, j = some k → Readable n k ∧ Run.Makes (fun s' w => s.Restores s' v w) (Run.ofJson k)

/-- The double of a short integer is written as that integer. -/
theorem numberJson_of_beq {x : Float} {k : Int} (hk : k.natAbs < Number.integerLimit) (hx : x == Float.ofInt k) :
    numberJson x = .integer k := by
  have hlimit : Number.integerLimit < 2 ^ 53 := by decide
  rw [numberJson, Number.shortInteger?, Number.integer?_of_beq (hk.trans hlimit) hx, Option.filter, if_pos (by simpa)]

theorem ReadsBack.of_json {j : Json} (hwrites : s.Writes v (some j)) (hv : v.isLeftOut = false) (hj : Readable n j)
    (hmakes : Run.Makes (fun s' w => s.Restores s' v w) (Run.ofJson j)) : s.ReadsBack n v :=
  ⟨some j, hwrites, by simp [hv], fun _ hk => Option.some.inj hk ▸ ⟨hj, hmakes⟩⟩

theorem ReadsBack.of_leftOut (hwrites : s.Writes v none) (hv : v.isLeftOut = true) : s.ReadsBack n v :=
  ⟨none, hwrites, by simp [hv], nofun⟩

theorem exists_items {vs : List Value} (h : ∀ v ∈ vs, s.ReadsBack n v) :
    ∃ js, s.WritesItems vs js ∧ (∀ j ∈ js, Readable n j) ∧
      Run.Makes (fun s' ws => s.RestoresItems s' vs ws) (Run.ofJsonItems js) := by
  induction vs with
  | nil => exact ⟨[], .nil, nofun, Run.makes_pure fun _ => .nil⟩
  | cons v vs ih =>
    obtain ⟨js, hwrites, hreadable, hmakes⟩ := ih fun v hv => h v (List.mem_cons_of_mem _ hv)
    obtain ⟨j, hj, hnone, hsome⟩ := h v (List.mem_cons_self ..)
    refine ⟨j.getD .null :: js, .cons hj hwrites, ?_⟩
    cases j with
    | none =>
      refine ⟨List.forall_mem_cons.2 ⟨.null, hreadable⟩, ?_⟩
      exact (Run.makes_pure (P := fun _ w => w = .null) fun _ => rfl).bind fun w =>
        hmakes.map fun s' ws hws hw => hw ▸ .nulled (hnone.1 rfl) hws
    | some j =>
      obtain ⟨hj, hjmakes⟩ := hsome j rfl
      refine ⟨List.forall_mem_cons.2 ⟨hj, hreadable⟩, ?_⟩
      exact hjmakes.bind fun w => hmakes.map fun s' ws hws hw => .kept hw hws

theorem exists_members {entries : List (String × Value)} (h : ∀ e ∈ entries, s.ReadsBack n e.2) :
    ∃ ms, s.WritesMembers entries ms ∧ (ms.map Prod.fst).Sublist (entries.map Prod.fst) ∧
      (∀ m ∈ ms, Readable n m.2) ∧
      Run.Makes (fun s' ws => s.RestoresProperties s' entries ws) (Run.ofJsonMembers ms) := by
  induction entries with
  | nil => exact ⟨[], .nil, .slnil, nofun, Run.makes_pure fun _ => .nil⟩
  | cons e entries ih =>
    obtain ⟨key, v⟩ := e
    obtain ⟨ms, hwrites, hkeys, hreadable, hmakes⟩ := ih fun e he => h e (List.mem_cons_of_mem _ he)
    obtain ⟨j, hj, hnone, hsome⟩ := h (key, v) (List.mem_cons_self ..)
    cases j with
    | none =>
      refine ⟨ms, .dropped hj hwrites, hkeys.cons key, hreadable, fun s₀ => ?_⟩
      obtain ⟨ws, s₁, hrun, hgrown, hws⟩ := hmakes s₀
      exact ⟨ws, s₁, hrun, hgrown, fun s₂ hs₂ => .dropped (hnone.1 rfl) (hws s₂ hs₂)⟩
    | some j =>
      obtain ⟨hjreadable, hjmakes⟩ := hsome j rfl
      refine ⟨(key, j) :: ms, .kept hj hwrites, hkeys.cons_cons key, List.forall_mem_cons.2 ⟨hjreadable, hreadable⟩, ?_⟩
      exact hjmakes.bind fun w => hmakes.map fun s' ws hws hw => .kept hw hws

/-- **Plain values are written and read back.** -/
theorem Plain.readsBack (h : s.Plain n v) : s.ReadsBack n v := by
  induction h with
  | undefined => exact .of_leftOut .undefined rfl
  | function c => exact .of_leftOut (.function c) rfl
  | native f => exact .of_leftOut (.native f) rfl
  | null => exact .of_json .null rfl .null (Run.makes_pure fun _ => .null)
  | bool b => exact .of_json (.bool b) rfl (.bool b) (Run.makes_pure fun _ => .bool b)
  | string text => exact .of_json (.string text) rfl (.string text) (Run.makes_pure fun _ => .string text)
  | @number n x k hk hx =>
    have hlimit : Number.integerLimit < 2 ^ 63 ∧ Number.integerLimit < Json.maxSignificand := by decide
    have hwrites := numberJson_of_beq hk hx ▸ Writes.number (s := s) x
    exact .of_json hwrites rfl (.integer (by omega) (by omega)) (Run.makes_pure fun _ => .number hx)
  | array _ ih =>
    obtain ⟨js, hwrites, hreadable, hmakes⟩ := exists_items ih
    refine .of_json (.array hwrites) rfl (.array hreadable) (hmakes.bind fun ws => ?_)
    refine (Run.makes_newArray ws).imp fun s' w hw hws => ?_
    obtain ⟨a, rfl, ha⟩ := hw
    exact .array (ha ▸ hws)
  | object hordered _ ih =>
    obtain ⟨ms, hwrites, hkeys, hreadable, hmakes⟩ := exists_members ih
    have hms : Dict.Ordered ms := List.pairwise_map.1 ((List.pairwise_map.2 hordered).sublist hkeys)
    refine .of_json (.object hwrites) rfl (.object hms hreadable) (hmakes.bind fun ws => ?_)
    exact (Run.makes_newObject ws).map fun s' o ho hws => .object (ho ▸ hws)

/-! ### The two functions -/

theorem run_stringify {j : Option Json} (h : s.toJson v = .ok j) : (Run.callNative .stringify [v]).run s =
    (.ok (j.elim .undefined fun j => .string j.text), s) := by
  have hargument : s.toJson (argument [v] 0) = .ok j := h
  rw [Run.callNative, Run.run_get_bind]
  dsimp only
  rw [hargument]
  cases j <;> rfl

theorem run_parseJson {text : String} {j : Json} (h : Json.parse text = .ok j) (s : Store) :
    (Run.callNative .parseJson [.string text]).run s = (Run.ofJson j).run s := by
  have hargument : Json.parse (s.display (argument [.string text] 0)) = .ok j := h
  rw [Run.callNative, Run.run_get_bind]
  dsimp only
  rw [hargument]

/-- **`JSON.parse` undoes `JSON.stringify`.**  A plain value less than 128 arrays and objects deep is written to a text,
unless it is undefined or a function.  From the text comes a value that looks like it, without what has no JSON.  The
arrays and objects that were there before are not changed. -/
theorem parseJson_stringify (hs : s.Closed) (hv : v.Within s.extent) (h : s.Plain n v) (hn : n < 128) :
    (v.isLeftOut = true → (Run.callNative .stringify [v]).run s = (.ok .undefined, s)) ∧
      (v.isLeftOut = false → ∃ text w s', (Run.callNative .stringify [v]).run s = (.ok (.string text), s) ∧
        (Run.callNative .parseJson [.string text]).run s = (.ok w, s') ∧ s.Grown s' ∧ s.Restores s' v w) := by
  obtain ⟨j, hwrites, hnone, hsome⟩ := h.readsBack
  have hstringify := run_stringify (((toJson_exact hs hv).2.1 j).2 hwrites)
  cases j with
  | none =>
    have hleft : v.isLeftOut = true := hnone.1 rfl
    exact ⟨fun _ => hstringify, fun hnot => absurd (hleft.symm.trans hnot) (by decide)⟩
  | some j =>
    obtain ⟨hreadable, hmakes⟩ := hsome j rfl
    have hparse := run_parseJson (Json.parse_text (hreadable.mono (Nat.le_of_lt_succ hn))) s
    obtain ⟨w, s', hrun, hs', hw⟩ := hmakes s
    refine ⟨fun hleft => absurd (hnone.2 hleft) (Option.some_ne_none j), fun _ => ?_⟩
    exact ⟨j.text, w, s', hstringify, hparse.trans hrun, hs', hw s' (.refl s')⟩

/-- An array of an object with what has to be escaped, what has no JSON, a negative zero and a number. -/
def mixed : Store :=
  { Store.empty ⟨none, "/tmp", none, [], 1, "linux", "x64"⟩ with
    arrays := #[[.object 0, .undefined, .number (-(Float.ofInt 0))]]
    objects := #[[("\"\n", .string "\\"), ("f", .native ⟨0, "f", .greatest⟩), ("é", .number (Float.ofInt (-12)))]] }

/-- Of the array an item comes back as null, of the object a property is missing. -/
theorem parseJson_stringify_mixed :
    let s := mixed
    s.Closed ∧ Value.Within s.extent (.array 0) ∧ s.Plain 2 (.array 0) ∧
      ∃ text w s', (Run.callNative .stringify [.array 0]).run s = (.ok (.string text), s) ∧
        (Run.callNative .parseJson [.string text]).run s = (.ok w, s') ∧ s.Grown s' ∧ s.Restores s' (.array 0) w := by
  intro s
  have hs : s.Closed := by
    constructor
    · simp [s, mixed, Store.empty, extent, Value.Within]
    · simp only [s, mixed, List.mem_toArray, List.forall_mem_singleton]
      exact List.forall_mem_cons.2 ⟨trivial, List.forall_mem_cons.2 ⟨trivial, List.forall_mem_singleton.2 trivial⟩⟩
    · simp [s, mixed, Store.empty]
  have hv : Value.Within s.extent (.array 0) := Nat.zero_lt_one
  have hkeys : (["\"\n", "f", "é"] : List String).Pairwise (· < ·) := by decide
  have hobject : s.Plain 1 (.object 0) := .object (List.pairwise_map.1 hkeys) <|
    List.forall_mem_cons.2 ⟨.string _, List.forall_mem_cons.2 ⟨.native _, List.forall_mem_singleton.2 <|
      .number (k := -12) (by decide) (by decide)⟩⟩
  have h : s.Plain 2 (.array 0) := .array <|
    List.forall_mem_cons.2 ⟨hobject, List.forall_mem_cons.2 ⟨.undefined, List.forall_mem_singleton.2 <|
      .number (k := 0) (by decide) (by decide)⟩⟩
  exact ⟨hs, hv, h, (parseJson_stringify hs hv h (by decide)).2 rfl⟩

end Store
end Script
end ScriptImport
