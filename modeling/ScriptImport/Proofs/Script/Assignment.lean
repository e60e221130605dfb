/-
# Assigning to names

A name is read from the scope, then from the names that are always there, then from the global object; it is assigned
to in the scope, or else in the global object.  An assignment changes one binding, one property of the global object, or
nothing at all (`Run.writeName_cases`).  So all other names have the same values afterwards, and the name itself has the
value that was assigned, except if it is found between the two (`assignment_observed`): the global object may have a
property that is called like a name that is always there, and assigning to that name succeeds and is not seen
(`assignment_unobserved`).
-/

import ScriptImport.Proofs.Survival

namespace ScriptImport
namespace Script

variable {s s' : Store} {context : ObjectId} {scope : Scope} {name other : String} {v : Value}

/-- A name that is always there, and that no scope binds here. -/
def Store.IsFixed (s : Store) (context : ObjectId) (scope : Scope) (name : String) : Prop :=
  s.lookup? name scope = none ∧ constantName? context name ≠ none

/-- The store in which an object has a property more, or another value of it. -/
def Store.withProperty (s : Store) (o : ObjectId) (name : String) (v : Value) : Store :=
  { s with objects := s.objects.modify o fun properties => Dict.insert properties name v }

namespace Store

/-! ### Reading after a change -/

theorem loaded_congr (h : s'.frames.size = s.frames.size) (v : Value) : s'.loaded v = s.loaded v := by
  have hscope (scope : Scope) : s'.hasScope scope = s.hasScope scope := by
    cases scope with
    | nil => rfl
    | cons f outer => rw [hasScope, hasScope, h]
  cases v with
  | function c => rw [loaded, loaded, hscope]
  | _ => rfl

/-- What a name has in a scope depends on its bindings alone. -/
theorem lookup?_congr (hsize : s'.frames.size = s.frames.size)
    (h : ∀ f ∈ scope, Dict.get? (s'.frame f) name = Dict.get? (s.frame f) name) :
    s'.lookup? name scope = s.lookup? name scope := by
  induction scope with
  | nil => rfl
  | cons f outer ih =>
    obtain ⟨hf, houter⟩ := List.forall_mem_cons.1 h
    rw [lookup?, lookup?, hf, ih houter]
    simp only [loaded_congr hsize]

theorem lookup?_eq_none_iff : s.lookup? name scope = none ↔ ∀ f ∈ scope, Dict.get? (s.frame f) name = none := by
  induction scope with
  | nil => exact iff_of_true rfl fun _ h => absurd h List.not_mem_nil
  | cons f outer ih =>
    rw [List.forall_mem_cons, lookup?]
    cases hb : Dict.get? (s.frame f) name with
    | some b => exact iff_of_false (Option.some_ne_none _) fun h => Option.some_ne_none b h.1
    | none => exact ih.trans ⟨fun h => ⟨rfl, h⟩, And.right⟩

theorem lookup?_append_of_unbound {inner : Scope} (hinner : ∀ g ∈ inner, Dict.get? (s.frame g) name = none)
    (outer : Scope) : s.lookup? name (inner ++ outer) = s.lookup? name outer := by
  induction inner with
  | nil => rfl
  | cons g inner ih =>
    obtain ⟨hg, hinner⟩ := List.forall_mem_cons.1 hinner
    rw [List.cons_append, lookup?, hg]
    exact ih hinner

theorem lt_size_of_get?_frame {f : FrameId} (h : Dict.get? (s.frame f) name ≠ none) : f < s.frames.size := by
  by_contra hle
  exact h (by simp [frame, Array.getD, hle, Dict.get?])

theorem lookup?_bound_of_ne {f : FrameId} (hf : f < s.frames.size) (hne : other ≠ name) (mutable : Bool)
    (scope : Scope) : (s.bound f name v mutable).lookup? other scope = s.lookup? other scope := by
  refine lookup?_congr (by simp [bound]) fun g _ => ?_
  rw [get?_frame_bound hf, if_neg fun h => hne h.2]

/-- **A bound value is found.**  A function that the frame holds weakly is strong again, for the frame is there. -/
theorem lookup?_bound_self {f : FrameId} (hf : f < s.frames.size) (hv : ∀ c, v = .function c → c.hold = .strong)
    (mutable : Bool) (outer : Scope) : (s.bound f name v mutable).lookup? name (f :: outer) = some v := by
  have hsize : (s.bound f name v mutable).frames.size = s.frames.size := by simp [bound]
  rw [lookup?, get?_frame_bound hf, if_pos ⟨rfl, rfl⟩]
  refine congrArg some ((loaded_congr hsize _).trans ?_)
  cases v with
  | function c =>
    obtain ⟨identity, function, captured, made, hold⟩ := c
    obtain rfl : hold = .strong := hv _ rfl
    by_cases hcaptured : captured.head? = some f
    · obtain ⟨rest, rfl⟩ : ∃ rest, captured = f :: rest := List.head?_eq_some_iff.1 hcaptured
      simp [Value.storedIn, Value.capturesStrongly, loaded, hasScope, hf]
    · simp [Value.storedIn, Value.capturesStrongly, loaded, hcaptured]
  | _ => rfl

/-- What a name is bound to anew, in the frame in which it is found, it has in the whole scope. -/
theorem lookup?_bound_of_found {inner outer : Scope} {f : FrameId}
    (hinner : ∀ g ∈ inner, Dict.get? (s.frame g) name = none) (hfound : Dict.get? (s.frame f) name ≠ none)
    (hv : ∀ c, v = .function c → c.hold = .strong) (mutable : Bool) :
    (s.bound f name v mutable).lookup? name (inner ++ f :: outer) = some v := by
  have hf : f < s.frames.size := lt_size_of_get?_frame hfound
  have hunbound : ∀ g ∈ inner, Dict.get? ((s.bound f name v mutable).frame g) name = none := by
    intro g hg
    have hne : ¬ (g = f ∧ name = name) := fun heq => hfound (heq.1 ▸ hinner g hg)
    rw [get?_frame_bound hf, if_neg hne]
    exact hinner g hg
  exact (lookup?_append_of_unbound hunbound _).trans (lookup?_bound_self hf hv mutable outer)

theorem resolve?_bound_of_ne {f : FrameId} (hf : f < s.frames.size) (hne : other ≠ name) (mutable : Bool)
    (context : ObjectId) (scope : Scope) :
    (s.bound f name v mutable).resolve? context scope other = s.resolve? context scope other := by
  rw [resolve?, resolve?, lookup?_bound_of_ne hf hne]
  rfl

theorem resolve?_of_lookup? {v : Value} (h : s.lookup? name scope = some v) (context : ObjectId) :
    s.resolve? context scope name = some v := by
  rw [resolve?, h]
  rfl

theorem object_withProperty (o o' : ObjectId) :
    (s.withProperty o name v).object o' =
      if o' = o ∧ o < s.objects.size then Dict.insert (s.object o) name v else s.object o' := by
  simp only [object, withProperty, Array.getD_eq_getD_getElem?, Array.getElem?_modify]
  by_cases hsame : o = o'
  · subst hsame
    by_cases hlt : o < s.objects.size <;> simp [hlt]
  · simp [hsame, Ne.symm hsame]

theorem resolve?_withProperty_of_ne (hne : other ≠ name) (o context : ObjectId) (scope : Scope) :
    (s.withProperty o name v).resolve? context scope other = s.resolve? context scope other := by
  have hget : Dict.get? ((s.withProperty o name v).object context) other = Dict.get? (s.object context) other := by
    rw [object_withProperty]
    split
    next h => rw [Dict.get?_insert, if_neg hne, h.1]
    next => rfl
  have hlookup : (s.withProperty o name v).lookup? other scope = s.lookup? other scope :=
    lookup?_congr rfl fun _ _ => rfl
  rw [resolve?, resolve?, hlookup, hget]

theorem lt_size_of_contains {o : ObjectId} (h : Dict.contains (s.object o) name = true) : o < s.objects.size := by
  by_contra hle
  simp [object, Array.getD, hle, Dict.contains, Dict.get?] at h

/-- Of a name that is not bound, its property of the global object counts if it is not always there. -/
theorem resolve?_withProperty_self (hcontext : context < s.objects.size) (hlookup : s.lookup? name scope = none) :
    (s.withProperty context name v).resolve? context scope name = ((constantName? context name).or (some v)) := by
  have hsame : (s.withProperty context name v).lookup? name scope = s.lookup? name scope :=
    lookup?_congr rfl fun _ _ => rfl
  rw [resolve?, hsame, hlookup, object_withProperty, if_pos ⟨rfl, hcontext⟩, Dict.get?_insert, if_pos rfl]
  cases constantName? context name <;> rfl

end Store

/-! ### What an assignment does -/

namespace Run

/-- Assigning to a name that the scope does not bind, or binds to a constant, changes nothing. -/
theorem assign_cases (name : String) (v : Value) (scope : Scope) (s : Store) :
    (∃ s', (assign name v scope).run s = (.ok true, s')) ∨
      (s.lookup? name scope = none ∧ (assign name v scope).run s = (.ok false, s)) ∨
      (assign name v scope).run s = (.error (.constant name), s) := by
  induction scope with
  | nil => exact .inr (.inl ⟨rfl, rfl⟩)
  | cons f outer ih =>
    rw [assign, run_get_bind, Store.lookup?]
    cases Dict.get? (s.frame f) name with
    | none => exact ih
    | some b =>
      obtain ⟨held, mutable⟩ := b
      cases mutable with
      | true => exact .inl ⟨_, rfl⟩
      | false => exact .inr (.inr rfl)

/-- **What an assignment does:** it binds the name anew in the frame in which it is found, or it changes the property of
the global object, or it fails and nothing has changed. -/
theorem writeName_cases (context : ObjectId) (scope : Scope) (name : String) (v : Value) (s : Store) :
    (∃ inner f outer, scope = inner ++ f :: outer ∧ (∀ g ∈ inner, Dict.get? (s.frame g) name = none) ∧
        Dict.get? (s.frame f) name ≠ none ∧
        (writeName context scope name v).run s = (.ok (), s.bound f name v true)) ∨
      (s.lookup? name scope = none ∧ context < s.objects.size ∧
        (writeName context scope name v).run s = (.ok (), s.withProperty context name v)) ∨
      (writeName context scope name v).run s = (.error (.constant name), s) ∨
      (writeName context scope name v).run s = (.error (.unbound name), s) := by
  rcases assign_cases name v scope s with ⟨s', h⟩ | ⟨hlookup, h⟩ | h
  · obtain ⟨inner, f, outer, hscope, hinner, hfound, rfl⟩ := eq_bound_of_assign h
    refine .inl ⟨inner, f, outer, hscope, hinner, hfound, ?_⟩
    rw [writeName, run_bind, h]
    rfl
  · cases hcontains : Dict.contains (s.object context) name with
    | true =>
      refine .inr (.inl ⟨hlookup, Store.lt_size_of_contains hcontains, ?_⟩)
      rw [writeName, run_bind, h]
      exact (run_get_bind _ s).trans (by rw [if_pos hcontains]; rfl)
    | false =>
      refine .inr (.inr (.inr ?_))
      rw [writeName, run_bind, h]
      exact (run_get_bind _ s).trans (by rw [if_neg (by simp [hcontains])]; rfl)
  · refine .inr (.inr (.inl ?_))
    rw [writeName, run_bind, h]

/-- Reading a name changes nothing. -/
theorem run_eval_name (call : Value → List Value → Run Value) (context : ObjectId) (scope : Scope) (name : String)
    (s : Store) : (eval call context (.name name) scope).run s =
      (match s.resolve? context scope name with
        | some v => .ok v
        | none => .error (.unbound name), s) := by
  simp only [eval]
  change (readName context scope name).run s = _
  rw [readName, run_bind]
  change ((match s.resolve? context scope name with
    | some v => pure v
    | none => throw (.unbound name) : Run Value)).run s = _
  cases s.resolve? context scope name <;> rfl

end Run

/-- **What is assigned to a name is read from it.**  An assignment that fails changes nothing.  After one that succeeds
the name has the very value that was assigned, a function with a strong hold on its scope, and every other name has the
value that it had, in all scopes and contexts.  Only names that are always there, while nothing binds them, keep the
value that they have always had. -/
theorem assignment_observed (call : Value → List Value → Run Value) (context : ObjectId) (scope : Scope) (name : String)
    (hv : ∀ c, v = .function c → c.hold = .strong) (s : Store) :
    (∃ s', (Run.assignTo call context (.name name) v scope).run s = (.ok (), s') ∧
        (¬ s.IsFixed context scope name → (Run.eval call context (.name name) scope).run s' = (.ok v, s')) ∧
        (s.IsFixed context scope name → (Run.eval call context (.name name) scope).run s'
          = (((Run.eval call context (.name name) scope).run s).1, s')) ∧
        ∀ other ≠ name, ∀ context' scope', (Run.eval call context' (.name other) scope').run s'
          = (((Run.eval call context' (.name other) scope').run s).1, s')) ∨
      (Run.assignTo call context (.name name) v scope).run s = (.error (.constant name), s) ∨
      (Run.assignTo call context (.name name) v scope).run s = (.error (.unbound name), s) := by
  have hassign : Run.assignTo call context (.name name) v scope = Run.writeName context scope name v := by
    simp only [Run.assignTo]
    rfl
  rw [hassign]
  simp only [Run.run_eval_name]
  rcases Run.writeName_cases context scope name v s with
    ⟨inner, f, outer, rfl, hinner, hfound, h⟩ | ⟨hlookup, hcontext, h⟩ | h | h
  · refine .inl ⟨_, h, fun _ => ?_, fun hfixed => ?_, fun other hne context' scope' => ?_⟩
    · rw [Store.resolve?_of_lookup? (Store.lookup?_bound_of_found hinner hfound hv true)]
    · exact absurd (Store.lookup?_eq_none_iff.1 hfixed.1 f (by simp)) hfound
    · rw [Store.resolve?_bound_of_ne (Store.lt_size_of_get?_frame hfound) hne]
  · -- the property of the global object is seen, unless the name is found before one looks there
    refine .inl ⟨_, h, fun hfixed => ?_, fun hfixed => ?_, fun other hne context' scope' => ?_⟩
    · have hname : constantName? context name = none := by_contra fun hname => hfixed ⟨hlookup, hname⟩
      rw [Store.resolve?_withProperty_self hcontext hlookup, hname]
      rfl
    · obtain ⟨w, hw⟩ := Option.ne_none_iff_exists'.1 hfixed.2
      rw [Store.resolve?_withProperty_self hcontext hlookup, hw, Store.resolve?, hlookup, hw]
      rfl
    · rw [Store.resolve?_withProperty_of_ne hne]
  · exact .inr (.inl h)
  · exact .inr (.inr h)

/-- A scope of two frames.  The outer one binds `f`, and the global object has a property `undefined`. -/
def twoFrames : Store :=
  { Store.empty ⟨none, "/tmp", none, [], 1, "linux", "x64"⟩ with
    objects := #[[("undefined", .string "old")]], frames := #[[("f", ⟨.null, true⟩), ("g", ⟨.null, false⟩)], []] }

/-- A function that is made in the outer frame is assigned to the `f` there, which holds it weakly from then on.  It is
read as it was. -/
theorem assignment_observed_function :
    let v : Value := .function ⟨0, ⟨none, [], .value .null⟩, [0], 0, .strong⟩
    let assigned := (Run.assignTo (Run.call 0) 0 (.name "f") v [1, 0]).run twoFrames
    (∀ c, v = .function c → c.hold = .strong) ∧ ¬ twoFrames.IsFixed 0 [1, 0] "f" ∧
      assigned.1 = .ok () ∧ (assigned.2.frame 0).map (fun e => e.2.value.capturesStrongly 0) = [false, false] ∧
      (Run.eval (Run.call 0) 0 (.name "f") [1, 0]).run assigned.2 = (.ok v, assigned.2) ∧
      (Run.eval (Run.call 0) 0 (.name "g") [1, 0]).run assigned.2 = (.ok .null, assigned.2) := by
  intro v assigned
  have hv : ∀ c, v = .function c → c.hold = .strong := fun _ hc => Value.function.inj hc ▸ rfl
  have hfixed : ¬ twoFrames.IsFixed 0 [1, 0] "f" := fun h => h.2 rfl
  refine ⟨hv, hfixed, rfl, rfl, ?_⟩
  rcases assignment_observed (Run.call 0) 0 [1, 0] "f" hv twoFrames with ⟨s', h, hself, -, hother⟩ | h | h
  · obtain rfl : assigned.2 = s' := congrArg Prod.snd h
    exact ⟨hself hfixed, hother "g" (by decide) 0 [1, 0]⟩
  · cases congrArg Prod.fst h
  · cases congrArg Prod.fst h

/-- **An assignment that is not seen:** `undefined = 'new'` succeeds if the global object has a property of that name,
and afterwards `undefined` is what it was. -/
theorem assignment_unobserved :
    ((Run.assignTo (Run.call 0) 0 (.name "undefined") (.string "new") [1, 0]).run twoFrames).1 = .ok () ∧
      ¬ ∀ (s s' : Store) (context : ObjectId) (scope : Scope) (name : String) (v : Value),
        (Run.assignTo (Run.call context) context (.name name) v scope).run s = (.ok (), s') →
          (Run.eval (Run.call context) context (.name name) scope).run s' = (.ok v, s') := by
  refine ⟨rfl, fun h => ?_⟩
  cases congrArg Prod.fst (h twoFrames _ 0 [1, 0] "undefined" (.string "new") rfl)

end Script
end ScriptImport
