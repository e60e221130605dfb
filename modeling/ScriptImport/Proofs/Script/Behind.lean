/-
# Stores behind one another

A store can be put behind another one: what it holds comes after what is there already, and the names of its
arrays, objects, frames and functions are moved up accordingly (`Store.behind`).  Values and errors are moved
along (`Value.behind`).

Nothing that reads a store can tell whether it is behind another one, except for the names.  That is plain for
what looks at one value, or looks something up.  The texts of arrays and the JSON of values are found by walks
that end at the latest when they are inside of all containers of the store; behind another store a walk could
go deeper, but what it meets is the same, and it meets no more than that (`display_behind`, `toJson_behind`).
-/

import ScriptImport.Proofs.Apart
import ScriptImport.Proofs.Dict
import ScriptImport.Script.Eval

namespace ScriptImport
namespace Script

/-! ### Rows behind one another -/

theorem getD_append_add {α : Type} (xs ys : Array α) (i : Nat) (a : α) :
    (xs ++ ys).getD (xs.size + i) a = ys.getD i a := by
  simp [Array.getD_eq_getD_getElem?, Array.getElem?_append_right]

theorem getD_map {α β : Type} (f : α → β) (xs : Array α) (i : Nat) (a : α) :
    (xs.map f).getD i (f a) = f (xs.getD i a) := by
  simp [Array.getD_eq_getD_getElem?, Option.getD_map]

theorem modify_append_add {α : Type} (xs ys : Array α) (i : Nat) (f : α → α) :
    (xs ++ ys).modify (xs.size + i) f = xs ++ ys.modify i f := by
  refine Array.ext (by simp) fun j h₁ h₂ => ?_
  rw [Array.getElem_modify]
  simp only [Array.getElem_append, Array.getElem_modify]
  grind

theorem map_modify {α β : Type} (xs : Array α) (i : Nat) {f : α → α} {g : β → β} {h : α → β}
    (hcomm : ∀ a, h (f a) = g (h a)) : (xs.modify i f).map h = (xs.map h).modify i g := by
  refine Array.ext (by simp) fun j h₁ h₂ => ?_
  rw [Array.getElem_modify, Array.getElem_map, Array.getElem_modify, Array.getElem_map]
  split
  · exact hcomm _
  · rfl

theorem forall_mem_modify {α : Type} {P : α → Prop} {xs : Array α} (h : ∀ x ∈ xs, P x) {i : Nat} {f : α → α}
    (hf : ∀ x, P x → P (f x)) : ∀ x ∈ xs.modify i f, P x := by
  intro x hx
  obtain ⟨j, hj, rfl⟩ := Array.mem_iff_getElem.1 hx
  rw [Array.getElem_modify]
  split
  · exact hf _ (h _ (Array.getElem_mem _))
  · exact h _ (Array.getElem_mem _)

theorem forall_mem_push {α : Type} {P : α → Prop} {xs : Array α} (h : ∀ x ∈ xs, P x) {a : α} (ha : P a) :
    ∀ x ∈ xs.push a, P x := fun x hx =>
  (Array.mem_push.1 hx).elim (h x) fun heq => heq ▸ ha

theorem getD_of_forall_mem {α : Type} {P : α → Prop} {xs : Array α} (h : ∀ x ∈ xs, P x) {a : α} (ha : P a)
    (i : Nat) : P (xs.getD i a) := by
  rw [Array.getD_eq_getD_getElem?]
  cases hx : xs[i]? with
  | none => exact ha
  | some x => exact h x (Array.mem_of_getElem? hx)

/-! ### Moving names -/

/-- How much a store holds. -/
def Store.extent (s : Store) : Extent := ⟨s.arrays.size, s.objects.size, s.frames.size, s.identities⟩

variable {k d d' : Extent}

/-- A scope behind what fills `k`. -/
def Scope.behind (k : Extent) (scope : Scope) : Scope := scope.map (k.frames + ·)

/-- A function behind what fills `k`. -/
def Closure.behind (k : Extent) (c : Closure) : Closure :=
  { c with
    identity := k.identities + c.identity
    scope := Scope.behind k c.scope
    context := k.objects + c.context }

/-- An operation behind what fills `k`. -/
def Operation.behind (k : Extent) : Operation → Operation
  | arrayMethod method a => arrayMethod method (k.arrays + a)
  | operation => operation

/-- A function that is no script behind what fills `k`. -/
def Native.behind (k : Extent) (n : Native) : Native :=
  ⟨k.identities + n.identity, n.name, n.operation.behind k⟩

mutual

/-- A value behind what fills `k`. -/
def Value.behind (k : Extent) : Value → Value
  | .undefined => .undefined
  | .null => .null
  | .bool b => .bool b
  | .number x => .number x
  | .string s => .string s
  | .array a => .array (k.arrays + a)
  | .object o => .object (k.objects + o)
  | .function c => .function (c.behind k)
  | .native n => .native (n.behind k)
  | .exports identity url entries => .exports (k.identities + identity) url (Value.behindAll k entries)

/-- Entries behind what fills `k`. -/
def Value.behindAll (k : Extent) : List (String × Value) → List (String × Value)
  | [] => []
  | (key, v) :: rest => (key, v.behind k) :: Value.behindAll k rest

end

theorem Value.behindAll_eq (k : Extent) (entries : Dict Value) :
    Value.behindAll k entries = Dict.mapValues (Value.behind k) entries := by
  induction entries with
  | nil => rfl
  | cons e rest ih => exact congrArg ((e.1, e.2.behind k) :: ·) ih

mutual

/-- The arrays and objects that a value names are among those of `d`. -/
def Value.Within (d : Extent) : Value → Prop
  | .array a => a < d.arrays
  | .object o => o < d.objects
  | .exports _ _ entries => Value.AllWithin d entries
  | _ => True

/-- The arrays and objects that entries name are among those of `d`. -/
def Value.AllWithin (d : Extent) : List (String × Value) → Prop
  | [] => True
  | (_, v) :: rest => v.Within d ∧ Value.AllWithin d rest

end

theorem Value.allWithin_iff {entries : List (String × Value)} :
    Value.AllWithin d entries ↔ ∀ e ∈ entries, e.2.Within d := by
  induction entries with
  | nil => exact iff_of_true trivial nofun
  | cons e rest ih => rw [List.forall_mem_cons, ← ih]; rfl

mutual

theorem Value.Within.mono (h : d ≤ d') : ∀ {v : Value}, v.Within d → v.Within d'
  | .array _, hv => hv.trans_le h.1
  | .object _, hv => hv.trans_le h.2.1
  | .exports _ _ _, hv => Value.AllWithin.mono h hv
  | .undefined, _ => trivial
  | .null, _ => trivial
  | .bool _, _ => trivial
  | .number _, _ => trivial
  | .string _, _ => trivial
  | .function _, _ => trivial
  | .native _, _ => trivial

theorem Value.AllWithin.mono (h : d ≤ d') :
    ∀ {entries : List (String × Value)}, Value.AllWithin d entries → Value.AllWithin d' entries
  | [], _ => trivial
  | _ :: _, hv => ⟨hv.1.mono h, Value.AllWithin.mono h hv.2⟩

end

/-- A binding behind what fills `k`. -/
def Binding.behind (k : Extent) (b : Binding) : Binding := ⟨b.value.behind k, b.mutable⟩

/-- An error behind what fills `k`. -/
def EvalError.behind (k : Extent) : EvalError → EvalError
  | thrown v => thrown (v.behind k)
  | e => e

namespace Store

/-- The store `s` behind the store `old`, on the machine of `s`. -/
def behind (old s : Store) : Store where
  host := s.host
  arrays := old.arrays ++ s.arrays.map (·.map (Value.behind old.extent))
  objects := old.objects ++ s.objects.map (Dict.mapValues (Value.behind old.extent))
  frames := old.frames ++ s.frames.map (Dict.mapValues (Binding.behind old.extent))
  identities := old.identities + s.identities
  output := old.output ++ s.output
  errors := old.errors ++ s.errors

/-- The arrays and objects that a store names are among those of `d`. -/
structure Within (d : Extent) (s : Store) : Prop where
  arrays : ∀ items ∈ s.arrays, ∀ v ∈ items, v.Within d
  objects : ∀ properties ∈ s.objects, ∀ e ∈ properties, e.2.Within d
  frames : ∀ frame ∈ s.frames, ∀ e ∈ frame, e.2.value.Within d

theorem Within.mono {s : Store} (h : s.Within d) (hd : d ≤ d') : s.Within d' where
  arrays items hi v hv := (h.arrays items hi v hv).mono hd
  objects properties hp e he := (h.objects properties hp e he).mono hd
  frames frame hf e he := (h.frames frame hf e he).mono hd

/-- The arrays and objects that a store names are there. -/
abbrev Closed (s : Store) : Prop := s.Within s.extent

theorem closed_empty (host : Host) : (Store.empty host).Closed :=
  ⟨fun _ h => absurd h (Array.not_mem_empty _), fun _ h => absurd h (Array.not_mem_empty _),
    fun _ h => absurd h (Array.not_mem_empty _)⟩

variable {old s : Store}

theorem Within.array (h : s.Within d) (a : ArrayId) : ∀ v ∈ s.array a, v.Within d :=
  getD_of_forall_mem h.arrays (fun _ hv => absurd hv List.not_mem_nil) a

theorem Within.object (h : s.Within d) (o : ObjectId) : ∀ e ∈ s.object o, e.2.Within d :=
  getD_of_forall_mem h.objects (fun _ hv => absurd hv List.not_mem_nil) o

theorem Within.frame (h : s.Within d) (f : FrameId) : ∀ e ∈ s.frame f, e.2.value.Within d :=
  getD_of_forall_mem h.frames (fun _ hv => absurd hv List.not_mem_nil) f

/-! ### What is found in a store -/

theorem array_behind (old s : Store) (a : ArrayId) :
    (old.behind s).array (old.extent.arrays + a) = (s.array a).map (Value.behind old.extent) :=
  (getD_append_add ..).trans (getD_map (List.map _) s.arrays a [])

theorem object_behind (old s : Store) (o : ObjectId) :
    (old.behind s).object (old.extent.objects + o) = Dict.mapValues (Value.behind old.extent) (s.object o) :=
  (getD_append_add ..).trans (getD_map (Dict.mapValues _) s.objects o [])

theorem frame_behind (old s : Store) (f : FrameId) :
    (old.behind s).frame (old.extent.frames + f) = Dict.mapValues (Binding.behind old.extent) (s.frame f) :=
  (getD_append_add ..).trans (getD_map (Dict.mapValues _) s.frames f [])

theorem hasScope_behind (old s : Store) (scope : Scope) :
    (old.behind s).hasScope (Scope.behind old.extent scope) = s.hasScope scope := by
  cases scope with
  | nil => rfl
  | cons f outer => simp [hasScope, Scope.behind, behind, extent]

end Store

/-! ### Values -/

namespace Value

variable (k) (v w : Value)

@[simp] theorem typeName_behind : (v.behind k).typeName = v.typeName := by cases v <;> rfl

@[simp] theorem isTruthy_behind : (v.behind k).isTruthy = v.isTruthy := by cases v <;> rfl

@[simp] theorem toNumber_behind : (v.behind k).toNumber = v.toNumber := by cases v <;> rfl

@[simp] theorem isNothing_behind : (v.behind k).isNothing = v.isNothing := by cases v <;> rfl

@[simp] theorem joinsText_behind : (v.behind k).joinsText = v.joinsText := by cases v <;> rfl

@[simp] theorem comparesByNumber_behind : (v.behind k).comparesByNumber (w.behind k) = v.comparesByNumber w := by
  cases v <;> cases w <;> rfl

@[simp] theorem strictEq_behind : (v.behind k).strictEq (w.behind k) = v.strictEq w := by
  cases v <;> cases w <;> simp [behind, strictEq, Closure.behind, Native.behind]

@[simp] theorem looseEq_behind : (v.behind k).looseEq (w.behind k) = v.looseEq w := by
  simp [looseEq]

@[simp] theorem order_behind : (v.behind k).order (w.behind k) = v.order w := by
  cases v <;> cases w <;> rfl

theorem storedIn_behind (f : FrameId) : (v.behind k).storedIn (k.frames + f) = (v.storedIn f).behind k := by
  cases v with
  | function c =>
    obtain ⟨identity, function, scope, context, hold⟩ := c
    cases scope with
    | nil => simp [behind, storedIn, capturesStrongly, Closure.behind, Scope.behind]
    | cons g outer =>
      simp only [behind, storedIn, capturesStrongly, Closure.behind, Scope.behind, List.map_cons,
        List.head?_cons, Option.some.injEq, Nat.add_left_cancel_iff]
      split <;> rfl
  | _ => rfl

theorem Within.storedIn {v : Value} (h : v.Within d) (f : FrameId) : (v.storedIn f).Within d := by
  cases v with
  | function c => unfold Value.storedIn; dsimp only; split <;> trivial
  | _ => exact h

theorem Within.loaded {s : Store} {v : Value} (h : v.Within d) : (s.loaded v).Within d := by
  cases v with
  | function c =>
    unfold Store.loaded
    dsimp only
    split
    · trivial
    · split <;> trivial
  | _ => exact h

end Value

theorem argument_behind (k : Extent) (args : List Value) (i : Nat) :
    argument (args.map (Value.behind k)) i = (argument args i).behind k := by
  simp only [argument, List.getD_eq_getElem?_getD, List.getElem?_map]
  cases args[i]? <;> rfl

theorem argument_within {args : List Value} (h : ∀ v ∈ args, v.Within d) (i : Nat) :
    (argument args i).Within d := by
  rw [argument, List.getD_eq_getElem?_getD]
  cases hi : args[i]? with
  | none => trivial
  | some v => exact h v (List.mem_of_getElem? hi)

namespace Store

variable (old s : Store)

theorem loaded_behind (v : Value) :
    (old.behind s).loaded (v.behind old.extent) = (s.loaded v).behind old.extent := by
  cases v with
  | function c =>
    have hscope := hasScope_behind old s c.scope
    obtain ⟨identity, function, scope, context, hold⟩ := c
    cases hold with
    | strong => rfl
    | weak =>
      simp only [Value.behind, Closure.behind, loaded] at hscope ⊢
      rw [hscope]
      split <;> rfl
  | _ => rfl

theorem lookup?_behind (name : String) (scope : Scope) :
    (old.behind s).lookup? name (Scope.behind old.extent scope)
      = (s.lookup? name scope).map (Value.behind old.extent) := by
  induction scope with
  | nil => rfl
  | cons f outer ih =>
    rw [Scope.behind, List.map_cons, lookup?, frame_behind, Dict.get?_mapValues, lookup?]
    cases Dict.get? (s.frame f) name with
    | some b => exact congrArg some (loaded_behind old s b.value)
    | none => exact ih

theorem lookup?_within {s : Store} (h : s.Closed) {name : String} {scope : Scope} {v : Value}
    (hv : s.lookup? name scope = some v) : v.Within s.extent := by
  induction scope with
  | nil => exact absurd hv nofun
  | cons f outer ih =>
    rw [lookup?] at hv
    split at hv
    next b hb =>
      obtain rfl := Option.some.inj hv
      exact (h.frame f _ (Dict.mem_of_get? hb)).loaded
    next => exact ih hv

theorem constantName?_behind (k : Extent) (context : ObjectId) (name : String) :
    constantName? (k.objects + context) name = (constantName? context name).map (Value.behind k) := by
  unfold constantName?
  split <;> rfl

theorem resolve?_behind (context : ObjectId) (scope : Scope) (name : String) :
    (old.behind s).resolve? (old.extent.objects + context) (Scope.behind old.extent scope) name
      = (s.resolve? context scope name).map (Value.behind old.extent) := by
  rw [resolve?, resolve?, lookup?_behind, constantName?_behind, object_behind, Dict.get?_mapValues]
  cases s.lookup? name scope <;> cases constantName? context name <;> rfl

theorem resolve?_within {s : Store} (h : s.Closed) {context : ObjectId} (hcontext : context < s.extent.objects)
    {scope : Scope} {name : String} {v : Value} (hv : s.resolve? context scope name = some v) :
    v.Within s.extent := by
  have hconstant {w : Value} (hw : constantName? context name = some w) : w.Within s.extent := by
    unfold constantName? at hw
    split at hw <;> cases hw
    · trivial
    · trivial
    · trivial
    · exact hcontext
  unfold resolve? at hv
  cases hlookup : s.lookup? name scope with
  | some w =>
    obtain rfl : w = v := by simpa [hlookup] using hv
    exact lookup?_within h hlookup
  | none =>
    cases hname : constantName? context name with
    | some w =>
      obtain rfl : w = v := by simpa [hlookup, hname] using hv
      exact hconstant hname
    | none =>
      have hget : Dict.get? (s.object context) name = some v := by simpa [hlookup, hname] using hv
      exact h.object context _ (Dict.mem_of_get? hget)

end Store
end Script
end ScriptImport
