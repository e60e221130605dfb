/-
# JSON of cyclic stores

Values hold one another: arrays their items, objects their properties and modules their exports.  The walk that finds
the JSON of a value carries the arrays and objects that it is inside of, not the modules.  Still it stops at the cycles
and nowhere else: a value has no JSON if and only if an array or object that can be reached from it can be reached from
itself, through modules or not (`Store.Circular`).  What is only met more than once is written out each time, as if it
had been the first (`Store.Writes`).  Both are put together in `Store.toJson_exact`.
-/

import Mathlib.Logic.Relation
import ScriptImport.Proofs.Script.Keeps
import ScriptImport.Proofs.Script.Keys

namespace ScriptImport
namespace Script

open Relation

variable {s : Store} {c : Store.Container} {v w : Value} {j : Option Json}

namespace Store

/-- One value is an item, a property or an export of another one. -/
inductive Holds (s : Store) : Value → Value → Prop
  | item {a : ArrayId} {v : Value} (h : v ∈ s.array a) : s.Holds (.array a) v
  | property {o : ObjectId} {e : String × Value} (h : e ∈ s.object o) : s.Holds (.object o) e.2
  | exported {identity : Identity} {url : String} {entries : List (String × Value)} {e : String × Value}
      (h : e ∈ entries) : s.Holds (.exports identity url entries) e.2

/-- An array or object that a value leads to leads to itself. -/
def Circular (s : Store) (v : Value) : Prop :=
  ∃ c : Container, ReflTransGen s.Holds v c.value ∧ TransGen s.Holds c.value c.value

mutual

/-- The JSON of a value, or that it has none.  Nothing is said of where the value is met. -/
inductive Writes (s : Store) : Value → Option Json → Prop
  | undefined : s.Writes .undefined none
  | null : s.Writes .null (some .null)
  | bool (b : Bool) : s.Writes (.bool b) (some (.bool b))
  | number (x : Float) : s.Writes (.number x) (some (numberJson x))
  | string (text : String) : s.Writes (.string text) (some (.string text))
  | function (c : Closure) : s.Writes (.function c) none
  | native (n : Native) : s.Writes (.native n) none
  | array {a : ArrayId} {js : List Json} (h : s.WritesItems (s.array a) js) : s.Writes (.array a) (some (.array js))
  | object {o : ObjectId} {ms : List (String × Json)} (h : s.WritesMembers (s.object o) ms) :
      s.Writes (.object o) (some (.object ms))
  | exports {identity : Identity} {url : String} {entries : List (String × Value)} {ms : List (String × Json)}
      (h : s.WritesMembers entries ms) : s.Writes (.exports identity url entries) (some (.object ms))

/-- The items of a JSON array; what has no JSON becomes null. -/
inductive WritesItems (s : Store) : List Value → List Json → Prop
  | nil : s.WritesItems [] []
  | cons {v : Value} {vs : List Value} {j : Option Json} {js : List Json} (h : s.Writes v j)
      (hs : s.WritesItems vs js) : s.WritesItems (v :: vs) (j.getD .null :: js)

/-- The members of a JSON object; what has no JSON is dropped. -/
inductive WritesMembers (s : Store) : List (String × Value) → List (String × Json) → Prop
  | nil : s.WritesMembers [] []
  | kept {key : String} {v : Value} {rest : List (String × Value)} {j : Json} {ms : List (String × Json)}
      (h : s.Writes v (some j)) (hs : s.WritesMembers rest ms) : s.WritesMembers ((key, v) :: rest) ((key, j) :: ms)
  | dropped {key : String} {v : Value} {rest : List (String × Value)} {ms : List (String × Json)}
      (h : s.Writes v none) (hs : s.WritesMembers rest ms) : s.WritesMembers ((key, v) :: rest) ms

end

/-! ### What a value leads to -/

theorem within_of_holds (hs : s.Closed) (h : s.Holds v w) (hv : v.Within s.extent) : w.Within s.extent := by
  cases h with
  | item h => exact hs.array _ _ h
  | property h => exact hs.object _ _ h
  | exported h => exact Value.allWithin_iff.1 hv _ h

theorem within_of_leads (hs : s.Closed) (h : ReflTransGen s.Holds v w) (hv : v.Within s.extent) :
    w.Within s.extent := by
  induction h with
  | refl => exact hv
  | tail _ h ih => exact within_of_holds hs h ih

theorem value_within_iff : c.value.Within s.extent ↔ c ∈ s.containers := by
  cases c with
  | array a => exact ⟨array_mem_containers, lt_arrays_of_mem_containers⟩
  | object o => exact ⟨object_mem_containers, lt_objects_of_mem_containers⟩

theorem Circular.of_leads (h : ReflTransGen s.Holds v w) (hw : s.Circular w) : s.Circular v := by
  obtain ⟨c, hc, hcycle⟩ := hw
  exact ⟨c, h.trans hc, hcycle⟩

/-- What leads to a cycle holds something that does. -/
theorem Circular.holds (h : s.Circular v) : ∃ w, s.Holds v w ∧ s.Circular w := by
  obtain ⟨c, hc, hcycle⟩ := h
  rcases hc.cases_head with rfl | ⟨w, hw, hwc⟩
  · -- the value is on the cycle itself, and goes around it once more
    obtain ⟨w, hw, hwc⟩ := TransGen.head'_iff.1 hcycle
    exact ⟨w, hw, c, hwc, hcycle⟩
  · exact ⟨w, hw, c, hwc, hcycle⟩

/-! ### Written values -/

mutual

/-- What is written out has an end. -/
theorem Writes.not_circular : ∀ {v : Value} {j : Option Json}, s.Writes v j → ¬ s.Circular v
  | _, _, .array h, hv => by
    obtain ⟨_, hw, hcircular⟩ := hv.holds
    cases hw with
    | item hw => exact h.not_circular _ hw hcircular
  | _, _, .object h, hv => by
    obtain ⟨_, hw, hcircular⟩ := hv.holds
    cases hw with
    | property hw => exact h.not_circular _ hw hcircular
  | _, _, .exports h, hv => by
    obtain ⟨_, hw, hcircular⟩ := hv.holds
    cases hw with
    | exported hw => exact h.not_circular _ hw hcircular
  | _, _, .undefined, hv => nomatch hv.holds
  | _, _, .null, hv => nomatch hv.holds
  | _, _, .bool _, hv => nomatch hv.holds
  | _, _, .number _, hv => nomatch hv.holds
  | _, _, .string _, hv => nomatch hv.holds
  | _, _, .function _, hv => nomatch hv.holds
  | _, _, .native _, hv => nomatch hv.holds

theorem WritesItems.not_circular : ∀ {vs : List Value} {js : List Json}, s.WritesItems vs js →
    ∀ v ∈ vs, ¬ s.Circular v
  | _, _, .nil => nofun
  | _, _, .cons h hs => List.forall_mem_cons.2 ⟨h.not_circular, hs.not_circular⟩

theorem WritesMembers.not_circular : ∀ {entries : List (String × Value)} {ms : List (String × Json)},
    s.WritesMembers entries ms → ∀ e ∈ entries, ¬ s.Circular e.2
  | _, _, .nil => nofun
  | _, _, .kept h hs => List.forall_mem_cons.2 ⟨h.not_circular, hs.not_circular⟩
  | _, _, .dropped h hs => List.forall_mem_cons.2 ⟨h.not_circular, hs.not_circular⟩

end

mutual

/-- A value is written out in one way. -/
theorem Writes.unique : ∀ {v : Value} {j j' : Option Json}, s.Writes v j → s.Writes v j' → j = j'
  | _, _, _, .array h, .array h' => congrArg (fun js => some (Json.array js)) (h.unique h')
  | _, _, _, .object h, .object h' => congrArg (fun ms => some (Json.object ms)) (h.unique h')
  | _, _, _, .exports h, .exports h' => congrArg (fun ms => some (Json.object ms)) (h.unique h')
  | _, _, _, .undefined, .undefined => rfl
  | _, _, _, .null, .null => rfl
  | _, _, _, .bool _, .bool _ => rfl
  | _, _, _, .number _, .number _ => rfl
  | _, _, _, .string _, .string _ => rfl
  | _, _, _, .function _, .function _ => rfl
  | _, _, _, .native _, .native _ => rfl

theorem WritesItems.unique : ∀ {vs : List Value} {js js' : List Json}, s.WritesItems vs js → s.WritesItems vs js' →
    js = js'
  | _, _, _, .nil, .nil => rfl
  | _, _, _, .cons h hs, .cons h' hs' => by rw [h.unique h', hs.unique hs']

theorem WritesMembers.unique : ∀ {entries : List (String × Value)} {ms ms' : List (String × Json)},
    s.WritesMembers entries ms → s.WritesMembers entries ms' → ms = ms'
  | _, _, _, .nil, .nil => rfl
  | _, _, _, .kept h hs, .kept h' hs' => by rw [Option.some.inj (h.unique h'), hs.unique hs']
  | _, _, _, .kept h _, .dropped h' _ => nomatch h.unique h'
  | _, _, _, .dropped h _, .kept h' _ => nomatch h.unique h'
  | _, _, _, .dropped _ hs, .dropped _ hs' => hs.unique hs'

end

/-! ### The walk -/

theorem exists_of_map {ε α β : Type} {x : Except ε α} {f : α → β} {b : β} (h : f <$> x = .ok b) :
    ∃ a, x = .ok a ∧ f a = b := by
  cases x with
  | error e => cases h
  | ok a => exact ⟨a, rfl, Except.ok.inj h⟩

section

variable {json : Container → Except Misuse Json}

mutual

/-- A value that cannot be written leads to a container that cannot be written. -/
theorem leads_of_jsonWith {m : Misuse} : ∀ {v : Value}, jsonWith json v = .error m →
    ∃ c : Container, ReflTransGen s.Holds v c.value ∧ json c = .error m
  | .array a, h => ⟨.array a, .refl, Run.eq_error_of_map h⟩
  | .object o, h => ⟨.object o, .refl, Run.eq_error_of_map h⟩
  | .exports _ _ _, h => by
    obtain ⟨e, he, c, hc, herror⟩ := leads_of_jsonEntries (Run.eq_error_of_map h)
    exact ⟨c, .head (.exported he) hc, herror⟩

theorem leads_of_jsonEntries {m : Misuse} : ∀ {entries : List (String × Value)}, jsonEntries json entries = .error m →
    ∃ e ∈ entries, ∃ c : Container, ReflTransGen s.Holds e.2 c.value ∧ json c = .error m
  | (key, v) :: rest, h => by
    rw [jsonEntries] at h
    cases hfirst : jsonWith json v with
    | error m' =>
      rw [hfirst] at h
      cases h
      exact ⟨_, List.mem_cons_self .., leads_of_jsonWith hfirst⟩
    | ok first =>
      rw [hfirst] at h
      obtain ⟨e, he, hc⟩ := leads_of_jsonEntries (Run.eq_error_of_map h)
      exact ⟨e, List.mem_cons_of_mem _ he, hc⟩

end

theorem leads_of_jsonItems {m : Misuse} {vs : List Value} (h : jsonItems json vs = .error m) :
    ∃ v ∈ vs, ∃ c : Container, ReflTransGen s.Holds v c.value ∧ json c = .error m := by
  unfold jsonItems at h
  induction vs with
  | nil => cases h
  | cons v vs ih =>
    rw [List.mapM_cons] at h
    cases hfirst : jsonWith json v with
    | error m' =>
      rw [hfirst] at h
      cases h
      exact ⟨v, List.mem_cons_self .., leads_of_jsonWith hfirst⟩
    | ok first =>
      rw [hfirst] at h
      obtain ⟨w, hw, hc⟩ := ih (Run.eq_error_of_map h)
      exact ⟨w, List.mem_cons_of_mem _ hw, hc⟩

mutual

theorem writes_of_jsonWith (h : ∀ c j, json c = .ok j → s.Writes c.value (some j)) :
    ∀ {v : Value} {j : Option Json}, jsonWith json v = .ok j → s.Writes v j
  | .array a, _, hj => by
    obtain ⟨j, hcontainer, rfl⟩ := exists_of_map hj
    exact h (.array a) j hcontainer
  | .object o, _, hj => by
    obtain ⟨j, hcontainer, rfl⟩ := exists_of_map hj
    exact h (.object o) j hcontainer
  | .exports _ _ _, _, hj => by
    obtain ⟨ms, hms, rfl⟩ := exists_of_map hj
    exact .exports (writesMembers_of_jsonEntries h hms)
  | .undefined, _, rfl => .undefined
  | .null, _, rfl => .null
  | .bool _, _, rfl => .bool _
  | .number _, _, rfl => .number _
  | .string _, _, rfl => .string _
  | .function _, _, rfl => .function _
  | .native _, _, rfl => .native _

theorem writesMembers_of_jsonEntries (h : ∀ c j, json c = .ok j → s.Writes c.value (some j)) :
    ∀ {entries : List (String × Value)} {ms : List (String × Json)}, jsonEntries json entries = .ok ms →
      s.WritesMembers entries ms
  | [], _, rfl => .nil
  | (key, v) :: rest, _, hms => by
    rw [jsonEntries] at hms
    cases hfirst : jsonWith json v with
    | error m =>
      rw [hfirst] at hms
      cases hms
    | ok first =>
      rw [hfirst] at hms
      obtain ⟨ms, hrest, rfl⟩ := exists_of_map hms
      cases first with
      | some j => exact .kept (writes_of_jsonWith h hfirst) (writesMembers_of_jsonEntries h hrest)
      | none => exact .dropped (writes_of_jsonWith h hfirst) (writesMembers_of_jsonEntries h hrest)

end

theorem writesItems_of_jsonItems (h : ∀ c j, json c = .ok j → s.Writes c.value (some j)) {vs : List Value}
    {js : List Json} (hjs : jsonItems json vs = .ok js) : s.WritesItems vs js := by
  unfold jsonItems at hjs
  induction vs generalizing js with
  | nil =>
    cases hjs
    exact .nil
  | cons v vs ih =>
    rw [List.mapM_cons] at hjs
    cases hfirst : jsonWith json v with
    | error m =>
      rw [hfirst] at hjs
      cases hjs
    | ok first =>
      rw [hfirst] at hjs
      obtain ⟨js, hrest, rfl⟩ := exists_of_map hjs
      exact .cons (writes_of_jsonWith h hfirst) (ih hrest)

end

/-- What the walk gives is written as it should be, wherever the walk is. -/
theorem writes_of_containerJson {budget : Nat} {path : List Container} {j : Json}
    (h : s.containerJson budget path c = .ok j) : s.Writes c.value (some j) := by
  induction budget generalizing path c j with
  | zero => cases h
  | succ budget ih =>
    cases c with
    | array a =>
      rw [containerJson] at h
      split at h
      · cases h
      · obtain ⟨js, hjs, rfl⟩ := exists_of_map h
        exact .array (writesItems_of_jsonItems (fun _ _ => ih) hjs)
    | object o =>
      rw [containerJson] at h
      split at h
      · cases h
      · obtain ⟨ms, hms, rfl⟩ := exists_of_map h
        exact .object (writesMembers_of_jsonEntries (fun _ _ => ih) hms)

/-- What cannot be written leads to something that cannot. -/
theorem leads_of_containerJson {budget : Nat} {path : List Container} {m : Misuse} (hc : c ∉ path)
    (h : s.containerJson (budget + 1) path c = .error m) :
    ∃ inner : Container, TransGen s.Holds c.value inner.value ∧
      s.containerJson budget (c :: path) inner = .error m := by
  cases c with
  | array a =>
    rw [containerJson, if_neg hc] at h
    obtain ⟨v, hv, inner, hinner, herror⟩ := leads_of_jsonItems (Run.eq_error_of_map h)
    exact ⟨inner, .head' (.item hv) hinner, herror⟩
  | object o =>
    rw [containerJson, if_neg hc] at h
    obtain ⟨e, he, inner, hinner, herror⟩ := leads_of_jsonEntries (Run.eq_error_of_map h)
    exact ⟨inner, .head' (.property he) hinner, herror⟩

/-- The walk stops at cycles only: it is inside of containers that lead to where it is. -/
theorem circular_of_containerJson (hs : s.Closed) {budget : Nat} {path : List Container} {m : Misuse}
    (hnodup : path.Nodup) (hpath : ∀ p ∈ path, p ∈ s.containers ∧ TransGen s.Holds p.value c.value)
    (hbudget : s.containers.card ≤ path.length + budget) (hc : c ∈ s.containers)
    (h : s.containerJson budget path c = .error m) : s.Circular c.value := by
  induction budget generalizing path c with
  | zero =>
    -- with no steps left the walk is inside of all containers, and so inside of this one
    have hinside : c ∈ path := mem_of_full hnodup (fun p hp => (hpath p hp).1) hbudget hc
    exact ⟨c, .refl, (hpath c hinside).2⟩
  | succ budget ih =>
    by_cases hinside : c ∈ path
    · exact ⟨c, .refl, (hpath c hinside).2⟩
    · obtain ⟨inner, hinner, herror⟩ := leads_of_containerJson hinside h
      have hleads := hinner.to_reflTransGen
      refine .of_leads hleads (ih (List.nodup_cons.2 ⟨hinside, hnodup⟩) (List.forall_mem_cons.2 ⟨⟨hc, hinner⟩, ?_⟩)
        (by rw [List.length_cons]; omega) ?_ herror)
      · exact fun p hp => ⟨(hpath p hp).1, (hpath p hp).2.trans hinner⟩
      · exact value_within_iff.1 (within_of_leads hs hleads (value_within_iff.2 hc))

/-- The walk fails at cycles only, and it does not matter how many steps inward it is given, if there are enough. -/
theorem jsonWith_error_iff (hs : s.Closed) (hv : v.Within s.extent) {budget : Nat}
    (hbudget : s.containers.card ≤ budget) {m : Misuse} :
    jsonWith (s.containerJson budget []) v = .error m ↔ m = .circular ∧ s.Circular v := by
  constructor
  · intro h
    obtain ⟨c, hc, herror⟩ := leads_of_jsonWith (s := s) h
    have hmem : c ∈ s.containers := value_within_iff.1 (within_of_leads hs hc hv)
    exact ⟨Run.containerJson_eq_error herror, .of_leads hc (circular_of_containerJson hs List.nodup_nil
      (fun _ hp => absurd hp List.not_mem_nil) (by simpa using hbudget) hmem herror)⟩
  · rintro ⟨rfl, hcircular⟩
    cases h : jsonWith (s.containerJson budget []) v with
    | error m => exact congrArg Except.error (Run.jsonWith_eq_error (fun _ _ => Run.containerJson_eq_error) h)
    | ok j => exact absurd hcircular (writes_of_jsonWith (fun _ _ => writes_of_containerJson) h).not_circular

theorem jsonWith_ok_iff (hs : s.Closed) (hv : v.Within s.extent) {budget : Nat}
    (hbudget : s.containers.card ≤ budget) :
    jsonWith (s.containerJson budget []) v = .ok j ↔ s.Writes v j := by
  refine ⟨writes_of_jsonWith fun _ _ => writes_of_containerJson, fun hj => ?_⟩
  cases h : jsonWith (s.containerJson budget []) v with
  | error m => exact absurd ((jsonWith_error_iff hs hv hbudget).1 h).2 hj.not_circular
  | ok j' => exact congrArg Except.ok ((writes_of_jsonWith (fun _ _ => writes_of_containerJson) h).unique hj)

/-- **What has JSON.**  A value fails to be written if and only if an array or object that it leads to, through items,
properties and exports, leads to itself.  Otherwise it is written, wherever something is met again as if it had not been
met before.  The walk comes to an end by itself: it goes as deep as it needs to, however many steps inward it is
given beyond the number of containers. -/
theorem toJson_exact (hs : s.Closed) (hv : v.Within s.extent) :
    (∀ m, s.toJson v = .error m ↔ m = .circular ∧ s.Circular v) ∧ (∀ j, s.toJson v = .ok j ↔ s.Writes v j) ∧
      ∀ budget ≥ s.arrays.size + s.objects.size, jsonWith (s.containerJson budget []) v = s.toJson v := by
  have hcard := card_containers_le s
  refine ⟨fun m => jsonWith_error_iff hs hv hcard, fun j => jsonWith_ok_iff hs hv hcard, fun budget hbudget => ?_⟩
  cases h : s.toJson v with
  | error m => exact (jsonWith_error_iff hs hv (hcard.trans hbudget)).2 ((jsonWith_error_iff hs hv hcard).1 h)
  | ok j => exact (jsonWith_ok_iff hs hv (hcard.trans hbudget)).2 ((jsonWith_ok_iff hs hv hcard).1 h)

/-- An object whose module exports an array with that object in it, and an array in which another one is twice. -/
def sharedAndCircular : Store :=
  { Store.empty ⟨none, "/tmp", none, [], 1, "linux", "x64"⟩ with
    arrays := #[[.object 0], [.undefined, .string "shared"], [.array 1, .array 1]]
    objects := #[[("module", .exports 0 "file:///m.js" [("list", .array 0)])], [("dropped", .undefined)]] }

/-- The object is circular, though the module is not recorded on the way, and the array is not. -/
theorem toJson_exact_shared :
    let s := sharedAndCircular
    let shared : Json := .array [.null, .string "shared"]
    s.Closed ∧ Value.Within s.extent (.object 0) ∧ Value.Within s.extent (.array 2) ∧
      s.toJson (.object 0) = .error .circular ∧ s.Circular (.object 0) ∧
      s.toJson (.array 2) = .ok (some (.array [shared, shared])) ∧ ¬ s.Circular (.array 2) := by
  intro s shared
  have hs : s.Closed := by
    constructor <;> simp [s, sharedAndCircular, Store.empty, extent, Value.Within, Value.AllWithin]
  have hobject : Value.Within s.extent (.object 0) := Nat.zero_lt_two
  have harray : Value.Within s.extent (.array 2) := Nat.lt_succ_self 2
  obtain ⟨herror, -, -⟩ := toJson_exact hs hobject
  obtain ⟨-, hok, -⟩ := toJson_exact hs harray
  exact ⟨hs, hobject, harray, rfl, ((herror _).1 rfl).2, rfl, ((hok _).1 rfl).not_circular⟩

end Store
end Script
end ScriptImport
