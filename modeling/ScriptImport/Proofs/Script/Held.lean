/-
# Functions hold their scopes

A function holds its scope strongly wherever a script can get at it.  Only in the first frame of that very scope is it
bound weakly, and looking the name up gives it a strong hold again.  `Value.Held` says of a value that the functions in
it hold their scopes strongly, and that all that it names is kept; `Store.Sound` says so of all that is in a store, but
for functions that are bound in the frame that they captured (`Value.HeldIn`).

What a script can do to the bindings of a sound store is a row of bindings of held values (`Store.Goes`).  It leads
through sound stores only (`Store.Goes.sound`), and of a name that has been bound, looking it up gives back the value
that it has been bound to last (`Store.Goes.lookup?_last`).

Some things may be gone already: what is said of the values in a store is then said of what stays, and it may name
only what stays.
-/

import Mathlib.Data.Set.Basic
import ScriptImport.Proofs.Dict
import ScriptImport.Proofs.Script.Behind

namespace ScriptImport
namespace Script

/-- The name of an array, an object or a frame. -/
inductive Thing where
  | array (id : ArrayId)
  | object (id : ObjectId)
  | frame (id : FrameId)
  deriving DecidableEq

/-- Whether a thing is in a store. -/
def Store.Has (s : Store) : Thing → Prop
  | .array a => a < s.arrays.size
  | .object o => o < s.objects.size
  | .frame f => f < s.frames.size

/-- Nothing is gone. -/
abbrev nothing : Thing → Bool := fun _ => false

/-- What is in a store and stays. -/
def Store.live (gone : Thing → Bool) (s : Store) : Set Thing := {t | s.Has t ∧ gone t = false}

variable {kept kept' : Set Thing} {gone : Thing → Bool} {s s' t : Store} {f : FrameId}

/-! ### Held values -/

/-- A scope whose frames are kept. -/
structure Scope.Held (kept : Set Thing) (scope : Scope) : Prop where
  ne_nil : scope ≠ []
  mem : ∀ f ∈ scope, .frame f ∈ kept

/-- A function whose scope and context are kept. -/
structure Closure.Held (kept : Set Thing) (c : Closure) : Prop where
  scope : Scope.Held kept c.scope
  context : .object c.context ∈ kept

/-- An operation whose array is kept, if it has one. -/
def Operation.Held (kept : Set Thing) : Operation → Prop
  | .arrayMethod _ a => .array a ∈ kept
  | _ => True

mutual

/-- All that a value names is kept, and the functions in it hold their scopes strongly. -/
def Value.Held (kept : Set Thing) : Value → Prop
  | .array a => .array a ∈ kept
  | .object o => .object o ∈ kept
  | .function c => c.hold = .strong ∧ c.Held kept
  | .native n => n.operation.Held kept
  | .exports _ _ entries => Value.AllHeld kept entries
  | _ => True

/-- All that entries name is kept, and the functions in them hold their scopes strongly. -/
def Value.AllHeld (kept : Set Thing) : List (String × Value) → Prop
  | [] => True
  | (_, v) :: rest => v.Held kept ∧ Value.AllHeld kept rest

end

theorem Value.allHeld_iff {entries : List (String × Value)} :
    Value.AllHeld kept entries ↔ ∀ e ∈ entries, e.2.Held kept := by
  induction entries with
  | nil => exact iff_of_true trivial nofun
  | cons e rest ih => rw [List.forall_mem_cons, ← ih]; rfl

/-- A value that the frame `f` binds: a function holds its scope weakly exactly if that is the scope of this frame. -/
def Value.HeldIn (kept : Set Thing) (f : FrameId) : Value → Prop
  | .function c => c.Held kept ∧ (c.hold = .weak ↔ c.scope.head? = some f)
  | v => v.Held kept

theorem Scope.Held.mono {scope : Scope} (h : Scope.Held kept scope) (hkept : kept ⊆ kept') : Scope.Held kept' scope :=
  ⟨h.ne_nil, fun f hf => hkept (h.mem f hf)⟩

theorem Closure.Held.mono {c : Closure} (h : c.Held kept) (hkept : kept ⊆ kept') : c.Held kept' :=
  ⟨h.scope.mono hkept, hkept h.context⟩

theorem Operation.Held.mono {operation : Operation} (h : operation.Held kept) (hkept : kept ⊆ kept') :
    operation.Held kept' := by
  cases operation with
  | arrayMethod method a => exact hkept h
  | _ => trivial

mutual

theorem Value.Held.mono (hkept : kept ⊆ kept') : ∀ {v : Value}, v.Held kept → v.Held kept'
  | .array _, hv => hkept hv
  | .object _, hv => hkept hv
  | .function _, hv => ⟨hv.1, hv.2.mono hkept⟩
  | .native _, hv => Operation.Held.mono hv hkept
  | .exports _ _ _, hv => Value.AllHeld.mono hkept hv
  | .undefined, _ | .null, _ | .bool _, _ | .number _, _ | .string _, _ => trivial

theorem Value.AllHeld.mono (hkept : kept ⊆ kept') :
    ∀ {entries : List (String × Value)}, Value.AllHeld kept entries → Value.AllHeld kept' entries
  | [], _ => trivial
  | _ :: _, hv => ⟨hv.1.mono hkept, Value.AllHeld.mono hkept hv.2⟩

end

theorem Value.HeldIn.mono {v : Value} (h : v.HeldIn kept f) (hkept : kept ⊆ kept') : v.HeldIn kept' f := by
  cases v with
  | function c => exact ⟨h.1.mono hkept, h.2⟩
  | _ => exact Value.Held.mono hkept h

/-! ### Storing and loading -/

/-- **A frame holds what it is given** as it should. -/
theorem Value.Held.storedIn {v : Value} (h : v.Held kept) (f : FrameId) : (v.storedIn f).HeldIn kept f := by
  cases v with
  | function c =>
    obtain ⟨hstrong, hc⟩ := h
    by_cases hscope : c.scope.head? = some f
    · have hstored : (Value.function c).storedIn f = .function { c with hold := .weak } := by
        simp [Value.storedIn, Value.capturesStrongly, hstrong, hscope]
      rw [hstored]
      exact ⟨⟨hc.scope, hc.context⟩, iff_of_true rfl hscope⟩
    · have hstored : (Value.function c).storedIn f = .function c := by
        simp [Value.storedIn, Value.capturesStrongly, hscope]
      rw [hstored]
      exact ⟨hc, iff_of_false (fun hweak => absurd (hstrong.symm.trans hweak) (by decide)) hscope⟩
  | _ => exact h

theorem Store.hasScope_of_held {scope : Scope} (h : Scope.Held (s.live gone) scope) : s.hasScope scope = true := by
  cases scope with
  | nil => exact absurd rfl h.ne_nil
  | cons f outer => exact decide_eq_true (h.mem f (List.mem_cons_self ..)).1

/-- **What a frame holds is strong again** when it is looked up. -/
theorem Value.HeldIn.loaded {v : Value} (h : v.HeldIn (s.live gone) f) : (s.loaded v).Held (s.live gone) := by
  cases v with
  | function c =>
    obtain ⟨identity, function, scope, context, hold⟩ := c
    cases hold with
    | strong => exact ⟨rfl, h.1⟩
    | weak =>
      have hscope : s.hasScope scope = true := Store.hasScope_of_held h.1.scope
      have hloaded : s.loaded (.function ⟨identity, function, scope, context, .weak⟩)
          = .function ⟨identity, function, scope, context, .strong⟩ := if_pos hscope
      rw [hloaded]
      exact ⟨rfl, h.1.scope, h.1.context⟩
  | _ => exact h

/-- **Looking up gives back what has been bound.** -/
theorem Store.loaded_storedIn {v : Value} (h : v.Held (s.live gone)) (f : FrameId) :
    s.loaded (v.storedIn f) = v := by
  cases v with
  | function c =>
    obtain ⟨identity, function, scope, context, hold⟩ := c
    obtain ⟨rfl, hc⟩ := h
    have hscope : s.hasScope scope = true := Store.hasScope_of_held hc.scope
    unfold Value.storedIn
    dsimp only
    split
    · exact if_pos hscope
    · rfl
  | _ => rfl

/-! ### Rows of rows -/

/-- Each item of the rows that stay has a property. -/
def EachIn {α : Type} (gone : Nat → Bool) (P : Nat → α → Prop) (rows : Array (List α)) : Prop :=
  ∀ i, gone i = false → ∀ a ∈ rows.getD i [], P i a

namespace EachIn

variable {α : Type} {gone : Nat → Bool} {P Q : Nat → α → Prop} {rows : Array (List α)}

theorem mono (h : EachIn gone P rows) (hPQ : ∀ i a, P i a → Q i a) : EachIn gone Q rows := fun i hi a ha =>
  hPQ i a (h i hi a ha)

theorem push (h : EachIn gone P rows) {row : List α} (hrow : ∀ a ∈ row, P rows.size a) :
    EachIn gone P (rows.push row) := by
  intro i hi a ha
  rw [Array.getD_eq_getD_getElem?, Array.getElem?_push] at ha
  split at ha
  next heq => exact heq ▸ hrow a ha
  next => exact h i hi a (by rwa [Array.getD_eq_getD_getElem?])

theorem modify (h : EachIn gone P rows) {i : Nat} {change : List α → List α}
    (hchange : gone i = false → ∀ row, (∀ a ∈ row, P i a) → ∀ a ∈ change row, P i a) :
    EachIn gone P (rows.modify i change) := by
  intro j hj a ha
  rw [Array.getD_eq_getD_getElem?, Array.getElem?_modify] at ha
  split at ha
  next heq =>
    subst heq
    cases hrow : rows[i]? with
    | none =>
      rw [hrow] at ha
      exact absurd ha List.not_mem_nil
    | some row =>
      rw [hrow] at ha
      refine hchange hj row (fun b hb => h i hj b ?_) a ha
      rwa [Array.getD_eq_getD_getElem?, hrow]
  next => exact h j hj a (by rwa [Array.getD_eq_getD_getElem?])

end EachIn

/-! ### Sound stores -/

namespace Store

/-- In what stays of a store, all that is named is kept, and functions hold their scopes strongly, unless they are bound
in the frame that they captured. -/
structure Held (gone : Thing → Bool) (kept : Set Thing) (s : Store) : Prop where
  arrays : EachIn (gone ∘ .array) (fun _ v => v.Held kept) s.arrays
  objects : EachIn (gone ∘ .object) (fun _ e => e.2.Held kept) s.objects
  frames : EachIn (gone ∘ .frame) (fun f e => e.2.value.HeldIn kept f) s.frames

/-- What is gone was there, and what stays names only what stays. -/
structure Sound (gone : Thing → Bool) (s : Store) : Prop where
  there : ∀ t, gone t = true → s.Has t
  held : s.Held gone (s.live gone)

/-- A store from which nothing is gone. -/
abbrev WellHeld (s : Store) : Prop := s.Sound nothing

theorem Held.mono (h : s.Held gone kept) (hkept : kept ⊆ kept') : s.Held gone kept' where
  arrays := h.arrays.mono fun _ _ hv => hv.mono hkept
  objects := h.objects.mono fun _ _ he => he.mono hkept
  frames := h.frames.mono fun _ _ he => he.mono hkept

theorem wellHeld_empty (host : Host) : (Store.empty host).WellHeld where
  there _ h := nomatch h
  held := ⟨fun _ _ _ h => absurd h List.not_mem_nil, fun _ _ _ h => absurd h List.not_mem_nil,
    fun _ _ _ h => absurd h List.not_mem_nil⟩

theorem Has.mono (h : s.extent ≤ s'.extent) {t : Thing} (ht : s.Has t) : s'.Has t := by
  cases t with
  | array a => exact Nat.lt_of_lt_of_le ht h.1
  | object o => exact Nat.lt_of_lt_of_le ht h.2.1
  | frame f => exact Nat.lt_of_lt_of_le ht h.2.2.1

theorem live_mono (h : s.extent ≤ s'.extent) : s.live gone ⊆ s'.live gone := fun _ ht => ⟨ht.1.mono h, ht.2⟩

theorem Sound.held_in (hs : s.Sound gone) (hle : s.extent ≤ s'.extent) : s.Held gone (s'.live gone) :=
  hs.held.mono (live_mono hle)

/-- A store that has grown is sound if what is in it is held. -/
theorem Sound.grown (hs : s.Sound gone) (hle : s.extent ≤ s'.extent) (h : s'.Held gone (s'.live gone)) :
    s'.Sound gone := ⟨fun t ht => (hs.there t ht).mono hle, h⟩

theorem Sound.array (h : s.Sound gone) {a : ArrayId} (ha : .array a ∈ s.live gone) :
    ∀ v ∈ s.array a, v.Held (s.live gone) := h.held.arrays a ha.2

theorem Sound.object (h : s.Sound gone) {o : ObjectId} (ho : .object o ∈ s.live gone) :
    ∀ e ∈ s.object o, e.2.Held (s.live gone) := h.held.objects o ho.2

/-- **A name that is looked up** has a value that holds its scope strongly. -/
theorem Sound.lookup? (h : s.Sound gone) {name : String} {scope : Scope} (hscope : ∀ f ∈ scope, gone (.frame f) = false)
    {v : Value} (hv : s.lookup? name scope = some v) : v.Held (s.live gone) := by
  induction scope with
  | nil => cases hv
  | cons f outer ih =>
    obtain ⟨hf, houter⟩ := List.forall_mem_cons.1 hscope
    rw [Store.lookup?] at hv
    split at hv
    next b hb =>
      obtain rfl := Option.some.inj hv
      exact (h.held.frames f hf _ (Dict.mem_of_get? hb)).loaded
    next => exact ih houter hv

theorem Sound.resolve? (h : s.Sound gone) {context : ObjectId} (hcontext : .object context ∈ s.live gone)
    {scope : Scope} (hscope : ∀ f ∈ scope, gone (.frame f) = false) {name : String} {v : Value}
    (hv : s.resolve? context scope name = some v) : v.Held (s.live gone) := by
  unfold Store.resolve? at hv
  cases hlookup : s.lookup? name scope with
  | some w =>
    obtain rfl : w = v := by simpa [hlookup] using hv
    exact h.lookup? hscope hlookup
  | none =>
    cases hname : constantName? context name with
    | some w =>
      obtain rfl : w = v := by simpa [hlookup, hname] using hv
      unfold constantName? at hname
      split at hname <;> cases hname <;> first | exact hcontext | trivial
    | none =>
      have hget : Dict.get? (s.object context) name = some v := by simpa [hlookup, hname] using hv
      exact h.object hcontext _ (Dict.mem_of_get? hget)

/-! ### Looking up while scopes are freed -/

/-- A value as looking up its name gives it if no other frames than those of `alive` are still there. -/
def loadedWhile (alive : FrameId → Bool) : Value → Value
  | .function c =>
    match c.hold with
    | .strong => .function c
    | .weak => if c.scope.head?.any alive then .function { c with hold := .strong } else .undefined
  | v => v

/-- The value that a name has in a scope if no other frames than those of `alive` are still there. -/
def lookupWhile? (s : Store) (alive : FrameId → Bool) (name : String) : Scope → Option Value
  | [] => none
  | f :: outer =>
    match Dict.get? (s.frame f) name with
    | some b => some (loadedWhile alive b.value)
    | none => s.lookupWhile? alive name outer

theorem loadedWhile_eq {alive : FrameId → Bool} (hf : alive f = true) {v : Value} (h : v.HeldIn (s.live gone) f) :
    loadedWhile alive v = s.loaded v := by
  cases v with
  | function c =>
    obtain ⟨identity, function, scope, context, hold⟩ := c
    cases hold with
    | strong => rfl
    | weak =>
      have hhead : scope.head? = some f := h.2.1 rfl
      have halive : scope.head?.any alive = true := by rw [hhead]; exact hf
      have hscope : s.hasScope scope = true := hasScope_of_held h.1.scope
      exact (if_pos halive).trans (if_pos hscope).symm
  | _ => rfl

/-- **Looking up needs only the frames of the scope itself.**  Whatever else has been freed, the name has the same
value. -/
theorem Sound.lookupWhile?_eq (h : s.Sound gone) {alive : FrameId → Bool} {scope : Scope}
    (hscope : ∀ f ∈ scope, gone (.frame f) = false) (halive : ∀ f ∈ scope, alive f = true) (name : String) :
    s.lookupWhile? alive name scope = s.lookup? name scope := by
  induction scope with
  | nil => rfl
  | cons f outer ih =>
    obtain ⟨hf, houter⟩ := List.forall_mem_cons.1 hscope
    obtain ⟨halive, houteralive⟩ := List.forall_mem_cons.1 halive
    rw [lookupWhile?, Store.lookup?]
    cases hb : Dict.get? (s.frame f) name with
    | some b => exact congrArg some (loadedWhile_eq halive (h.held.frames f hf _ (Dict.mem_of_get? hb)))
    | none => exact ih houter houteralive

end Store

/-! ### What is bound -/

/-- A value that is bound to a name in a frame. -/
structure Bind where
  frame : FrameId
  name : String
  value : Value

/-- The store in which a name has been bound in a frame. -/
def Store.bound (f : FrameId) (name : String) (v : Value) (mutable : Bool) (s : Store) : Store :=
  { s with frames := s.frames.modify f fun frame => Dict.insert frame name ⟨v.storedIn f, mutable⟩ }

/-- The store with a new frame. -/
def Store.withFrame (s : Store) : Store := { s with frames := s.frames.push [] }

/-- What a script does to the bindings of a store: it binds held values to names, in this order, it makes new frames,
and it leaves the frames as they are while it does other things. -/
inductive Store.Goes (gone : Thing → Bool) : Store → List Bind → Store → Prop where
  | done {s : Store} : Goes gone s [] s
  | bind {s t : Store} {binds : List Bind} {f : FrameId} {name : String} {v : Value} {mutable : Bool}
    (hf : .frame f ∈ s.live gone) (hv : v.Held (s.live gone)) (h : Goes gone (s.bound f name v mutable) binds t) :
    Goes gone s (⟨f, name, v⟩ :: binds) t
  | frame {s t : Store} {binds : List Bind} (h : Goes gone s.withFrame binds t) : Goes gone s binds t
  | other {s s' t : Store} {binds : List Bind} (hframes : s'.frames = s.frames) (hle : s.extent ≤ s'.extent)
    (hsound : s.Sound gone → s'.Sound gone) (h : Goes gone s' binds t) : Goes gone s binds t

/-- Of what has been bound, this is the last that the name was bound to in this frame. -/
def LastBound (binds : List Bind) (f : FrameId) (name : String) (v : Value) : Prop :=
  ∃ before after, binds = before ++ ⟨f, name, v⟩ :: after ∧ ∀ b ∈ after, b.frame = f → b.name ≠ name

namespace Store

variable {name : String} {v : Value} {mutable : Bool} {binds binds' : List Bind}

theorem extent_bound (f : FrameId) (name : String) (v : Value) (mutable : Bool) (s : Store) :
    (s.bound f name v mutable).extent = s.extent := by
  simp [extent, bound]

theorem extent_le_withFrame (s : Store) : s.extent ≤ s.withFrame.extent := by
  simp [Extent.le_iff, extent, withFrame]

theorem Sound.bound (hs : s.Sound gone) (hv : v.Held (s.live gone)) (f : FrameId) (name : String) (mutable : Bool) :
    (s.bound f name v mutable).Sound gone := by
  have hle := (extent_bound f name v mutable s).ge
  have hheld := hs.held_in hle
  refine hs.grown hle ⟨hheld.arrays, hheld.objects, hheld.frames.modify fun _ frame hframe e he => ?_⟩
  rcases Dict.eq_or_mem_of_mem_insert he with rfl | he
  · exact (hv.storedIn f).mono (live_mono hle)
  · exact hframe e he

theorem Sound.withFrame (hs : s.Sound gone) : s.withFrame.Sound gone := by
  have hle := s.extent_le_withFrame
  have hheld := hs.held_in hle
  exact hs.grown hle ⟨hheld.arrays, hheld.objects, hheld.frames.push fun _ h => absurd h List.not_mem_nil⟩

theorem Goes.extent_le (h : s.Goes gone binds t) : s.extent ≤ t.extent := by
  induction h with
  | done => exact le_rfl
  | bind _ _ _ ih => exact (extent_bound ..).ge.trans ih
  | frame _ ih => exact (extent_le_withFrame _).trans ih
  | other _ hle _ _ ih => exact hle.trans ih

/-- **Scripts go through sound stores only.** -/
theorem Goes.sound (h : s.Goes gone binds t) (hs : s.Sound gone) : t.Sound gone := by
  induction h with
  | done => exact hs
  | bind _ hv _ ih => exact ih (hs.bound hv _ _ _)
  | frame _ ih => exact ih hs.withFrame
  | other _ _ hsound _ ih => exact ih (hsound hs)

theorem Goes.append (h : s.Goes gone binds s') (h' : s'.Goes gone binds' t) : s.Goes gone (binds ++ binds') t := by
  induction h with
  | done => exact h'
  | bind hf hv _ ih => exact .bind hf hv (ih h')
  | frame _ ih => exact .frame (ih h')
  | other hframes hle hsound _ ih => exact .other hframes hle hsound (ih h')

theorem frame_withFrame (s : Store) (f : FrameId) : s.withFrame.frame f = s.frame f := by
  rw [Store.frame, Store.frame, withFrame, Array.getD_eq_getD_getElem?, Array.getD_eq_getD_getElem?,
    Array.getElem?_push]
  split
  next heq => rw [heq, Array.getElem?_size]; rfl
  next => rfl

theorem get?_frame_bound (hf : f < s.frames.size) (g : FrameId) (other : String) :
    Dict.get? ((s.bound f name v mutable).frame g) other =
      if g = f ∧ other = name then some ⟨v.storedIn f, mutable⟩ else Dict.get? (s.frame g) other := by
  rw [Store.frame, Store.frame, Store.bound, Array.getD_eq_getD_getElem?, Array.getD_eq_getD_getElem?,
    Array.getElem?_modify]
  by_cases hg : f = g
  · subst hg
    rw [if_pos rfl, Array.getElem?_eq_getElem hf, Option.map_some, Option.getD_some, Option.getD_some,
      Dict.get?_insert]
    simp
  · rw [if_neg hg, if_neg fun h => hg h.1.symm]

/-- **A binding stays** until its name is bound again in that frame. -/
theorem Goes.get?_frame (h : s.Goes gone binds t) (hother : ∀ b ∈ binds, b.frame = f → b.name ≠ name) :
    Dict.get? (t.frame f) name = Dict.get? (s.frame f) name := by
  induction h with
  | done => rfl
  | bind hf _ _ ih =>
    obtain ⟨hfirst, hrest⟩ := List.forall_mem_cons.1 hother
    rw [ih hrest, get?_frame_bound hf.1, if_neg fun h => hfirst h.1.symm h.2.symm]
  | frame _ ih => rw [ih hother, frame_withFrame]
  | other hframes _ _ _ ih => rw [ih hother, Store.frame, Store.frame, hframes]

theorem Goes.split (h : s.Goes gone (binds ++ binds') t) : ∃ m, s.Goes gone binds m ∧ m.Goes gone binds' t := by
  generalize hall : binds ++ binds' = all at h
  induction h generalizing binds with
  | done =>
    obtain ⟨rfl, rfl⟩ := List.append_eq_nil_iff.1 hall
    exact ⟨_, .done, .done⟩
  | @bind s t all f name v mutable hf hv h ih =>
    cases binds with
    | nil =>
      obtain rfl : binds' = _ := hall
      exact ⟨s, .done, .bind hf hv h⟩
    | cons b binds =>
      obtain ⟨rfl, rfl⟩ := List.cons.inj hall
      obtain ⟨m, hm, hm'⟩ := ih rfl
      exact ⟨m, .bind hf hv hm, hm'⟩
  | frame _ ih =>
    obtain ⟨m, hm, hm'⟩ := ih hall
    exact ⟨m, .frame hm, hm'⟩
  | other hframes hle hsound _ ih =>
    obtain ⟨m, hm, hm'⟩ := ih hall
    exact ⟨m, .other hframes hle hsound hm, hm'⟩

/-- What is bound is held when it is bound, and then it is what the name is bound to. -/
theorem Goes.get?_frame_head (h : s.Goes gone (⟨f, name, v⟩ :: binds) t)
    (hother : ∀ b ∈ binds, b.frame = f → b.name ≠ name) :
    v.Held (t.live gone) ∧ ∃ mutable, Dict.get? (t.frame f) name = some ⟨v.storedIn f, mutable⟩ := by
  generalize hall : (⟨f, name, v⟩ : Bind) :: binds = all at h
  induction h with
  | done => cases hall
  | @bind s t all g other w mutable hg hw h ih =>
    cases hall
    refine ⟨hw.mono (live_mono ((extent_bound ..).ge.trans h.extent_le)), mutable, ?_⟩
    rw [h.get?_frame hother, get?_frame_bound hg.1, if_pos ⟨rfl, rfl⟩]
  | frame _ ih => exact ih hall
  | other _ _ _ _ ih => exact ih hall

/-- **A name has the value that it has been bound to last,** in every scope in which it is found in that frame. -/
theorem Goes.lookup?_last (h : s.Goes gone binds t) (hlast : LastBound binds f name v) {inner outer : Scope}
    (hinner : ∀ g ∈ inner, Dict.get? (t.frame g) name = none) : t.lookup? name (inner ++ f :: outer) = some v := by
  obtain ⟨before, after, rfl, hother⟩ := hlast
  obtain ⟨m, -, hm⟩ := h.split
  obtain ⟨hv, mutable, hget⟩ := hm.get?_frame_head hother
  induction inner with
  | nil =>
    rw [List.nil_append, Store.lookup?, hget]
    exact congrArg some (loaded_storedIn hv f)
  | cons g inner ih =>
    obtain ⟨hg, hinner⟩ := List.forall_mem_cons.1 hinner
    rw [List.cons_append, Store.lookup?, hg]
    exact ih hinner

end Store

end Script
end ScriptImport
