/-
# Freeing what nothing holds

A store may be freed of things that nothing that stays names (`Store.Sound`).  Their arrays, objects and frames are
emptied then (`Store.free`); what functions were bound weakly in a frame go with it, and there are no others that could
lose it.  What stays looks as before: names have the same values (`Store.resolve?_free`), and held values have the same
text (`Store.display_free`) and the same JSON (`Store.toJson_free`).
-/

import ScriptImport.Proofs.Script.Held

namespace ScriptImport
namespace Script

/-! ### Emptying rows -/

/-- Rows of which some are emptied. -/
def emptied {α : Type} (gone : Nat → Bool) (rows : Array (List α)) : Array (List α) :=
  rows.mapIdx fun i row => if gone i then [] else row

section

variable {α : Type} {gone : Nat → Bool} {rows : Array (List α)}

@[simp] theorem size_emptied : (emptied gone rows).size = rows.size := Array.size_mapIdx

theorem getD_emptied {i : Nat} (hi : gone i = false) : (emptied gone rows).getD i [] = rows.getD i [] := by
  rw [emptied, Array.getD_eq_getD_getElem?, Array.getD_eq_getD_getElem?, Array.getElem?_mapIdx]
  simp [hi]

theorem emptied_push (hsize : gone rows.size = false) (row : List α) :
    emptied gone (rows.push row) = (emptied gone rows).push row := by
  simp [emptied, Array.mapIdx_push, hsize]

theorem emptied_modify {i : Nat} (hi : gone i = false) (change : List α → List α) :
    emptied gone (rows.modify i change) = (emptied gone rows).modify i change := by
  refine Array.ext (by simp) fun j h₁ h₂ => ?_
  simp only [emptied, Array.getElem_mapIdx, Array.getElem_modify]
  by_cases hj : i = j
  · subst hj
    simp [hi]
  · simp [hj]

end

/-! ### Freed stores -/

/-- A store in which what is gone is empty. -/
def Store.free (gone : Thing → Bool) (s : Store) : Store :=
  { s with
    arrays := emptied (gone ∘ .array) s.arrays
    objects := emptied (gone ∘ .object) s.objects
    frames := emptied (gone ∘ .frame) s.frames }

variable {kept : Set Thing} {gone : Thing → Bool} {s : Store}

namespace Store

theorem array_free {a : ArrayId} (ha : gone (.array a) = false) : (s.free gone).array a = s.array a := getD_emptied ha

theorem object_free {o : ObjectId} (ho : gone (.object o) = false) : (s.free gone).object o = s.object o :=
  getD_emptied ho

theorem frame_free {f : FrameId} (hf : gone (.frame f) = false) : (s.free gone).frame f = s.frame f := getD_emptied hf

@[simp] theorem hasScope_free (scope : Scope) : (s.free gone).hasScope scope = s.hasScope scope := by
  cases scope with
  | nil => rfl
  | cons f outer => simp [hasScope, free]

@[simp] theorem loaded_free (v : Value) : (s.free gone).loaded v = s.loaded v := by
  cases v with
  | function c => simp [loaded]
  | _ => rfl

theorem lookup?_free {scope : Scope} (hscope : ∀ f ∈ scope, gone (.frame f) = false) (name : String) :
    (s.free gone).lookup? name scope = s.lookup? name scope := by
  induction scope with
  | nil => rfl
  | cons f outer ih =>
    obtain ⟨hf, houter⟩ := List.forall_mem_cons.1 hscope
    rw [lookup?, lookup?, frame_free hf, ih houter]
    simp

/-- **A name has the same value** as before. -/
theorem resolve?_free {context : ObjectId} (hcontext : gone (.object context) = false) {scope : Scope}
    (hscope : ∀ f ∈ scope, gone (.frame f) = false) (name : String) :
    (s.free gone).resolve? context scope name = s.resolve? context scope name := by
  rw [resolve?, resolve?, lookup?_free hscope, object_free hcontext]

/-! ### Texts -/

theorem showWith_congr {show₁ show₂ : ArrayId → String} (h : ∀ a, .array a ∈ kept → show₁ a = show₂ a) {v : Value}
    (hv : v.Held kept) : showWith show₁ v = showWith show₂ v := by
  cases v with
  | array a => exact h a hv
  | _ => rfl

theorem showItem_congr {show₁ show₂ : ArrayId → String} {v : Value} (h : ∀ a, v = .array a → show₁ a = show₂ a) :
    showItem show₁ v = showItem show₂ v := by
  cases v with
  | array a => exact h a rfl
  | _ => rfl

theorem joinIn_free (hs : s.Sound gone) (budget : Nat) (path : List ArrayId) (separator : String) {a : ArrayId}
    (ha : .array a ∈ s.live gone) :
    (s.free gone).joinIn budget path separator a = s.joinIn budget path separator a := by
  induction budget generalizing path separator a with
  | zero => rfl
  | succ budget ih =>
    rw [joinIn, joinIn, array_free ha.2]
    split
    · rfl
    · refine congrArg _ (List.map_congr_left fun v hv => showItem_congr fun b hb => ih _ _ ?_)
      have hheld : (Value.array b).Held (s.live gone) := hb ▸ hs.array ha v hv
      exact hheld

theorem join_free (hs : s.Sound gone) (separator : String) {a : ArrayId} (ha : .array a ∈ s.live gone) :
    (s.free gone).join separator a = s.join separator a := by
  rw [join, join, show (s.free gone).arrays.size = s.arrays.size from size_emptied]
  exact joinIn_free hs _ _ separator ha

/-- **A held value has the same text** as before. -/
theorem display_free (hs : s.Sound gone) {v : Value} (hv : v.Held (s.live gone)) :
    (s.free gone).display v = s.display v := showWith_congr (fun _ ha => join_free hs "," ha) hv

/-! ### JSON -/

/-- An array or an object that is kept. -/
def Container.Held (kept : Set Thing) : Container → Prop
  | .array a => .array a ∈ kept
  | .object o => .object o ∈ kept

section

variable {json₁ json₂ : Container → Except Misuse Json}

mutual

theorem jsonWith_congr (h : ∀ c : Container, c.Held kept → json₁ c = json₂ c) :
    ∀ {v : Value}, v.Held kept → jsonWith json₁ v = jsonWith json₂ v
  | .array _, hv => congrArg (some <$> ·) (h (.array _) hv)
  | .object _, hv => congrArg (some <$> ·) (h (.object _) hv)
  | .exports _ _ _, hv => congrArg ((fun ms => some (Json.object ms)) <$> ·) (jsonEntries_congr h hv)
  | .undefined, _ | .null, _ | .bool _, _ | .number _, _ | .string _, _ | .function _, _ | .native _, _ => rfl

theorem jsonEntries_congr (h : ∀ c : Container, c.Held kept → json₁ c = json₂ c) :
    ∀ {entries : List (String × Value)}, Value.AllHeld kept entries →
      jsonEntries json₁ entries = jsonEntries json₂ entries
  | [], _ => rfl
  | (key, v) :: rest, hv => by
    rw [jsonEntries, jsonEntries, jsonWith_congr h hv.1, jsonEntries_congr h hv.2]

end

theorem jsonItems_congr (h : ∀ c : Container, c.Held kept → json₁ c = json₂ c) {vs : List Value}
    (hvs : ∀ v ∈ vs, v.Held kept) : jsonItems json₁ vs = jsonItems json₂ vs := by
  induction vs with
  | nil => rfl
  | cons v vs ih =>
    obtain ⟨hv, hvs⟩ := List.forall_mem_cons.1 hvs
    unfold jsonItems at ih ⊢
    rw [List.mapM_cons, List.mapM_cons, jsonWith_congr h hv, ih hvs]

end

theorem containerJson_free (hs : s.Sound gone) (budget : Nat) (path : List Container) {c : Container}
    (hc : c.Held (s.live gone)) : (s.free gone).containerJson budget path c = s.containerJson budget path c := by
  induction budget generalizing path c with
  | zero => rfl
  | succ budget ih =>
    have hinner := fun c' (hc' : Container.Held (s.live gone) c') => ih (c :: path) hc'
    cases c with
    | array a =>
      rw [containerJson, containerJson]
      split
      · rfl
      · rw [array_free hc.2, jsonItems_congr hinner (hs.array hc)]
    | object o =>
      rw [containerJson, containerJson]
      split
      · rfl
      · rw [object_free hc.2, jsonEntries_congr hinner (Value.allHeld_iff.2 (hs.object hc))]

/-- **A held value has the same JSON** as before. -/
theorem toJson_free (hs : s.Sound gone) {v : Value} (hv : v.Held (s.live gone)) :
    (s.free gone).toJson v = s.toJson v := by
  have hsize : (s.free gone).arrays.size + (s.free gone).objects.size = s.arrays.size + s.objects.size := by
    simp [free]
  rw [toJson, toJson, hsize]
  exact jsonWith_congr (fun c hc => containerJson_free hs _ _ hc) hv

end Store

/-! ### Operators and functions that are no scripts -/

theorem argument_held {args : List Value} (h : ∀ v ∈ args, v.Held kept) (i : Nat) : (argument args i).Held kept := by
  rw [argument, List.getD_eq_getElem?_getD]
  cases hi : args[i]? with
  | none => trivial
  | some v => exact h v (List.mem_of_getElem? hi)

theorem answer_held (host : Host) (q : HostQuestion) : (q.answer host).Held kept := by
  obtain ⟨home, temporary, directory, environment, processId, platform, architecture⟩ := host
  cases q <;> cases home <;> cases directory <;> trivial

namespace Store

theorem binary_held (s : Store) (op : Syntax.BinaryOp) (a b : Value) : (s.binary op a b).Held kept := by
  cases op with
  | add => unfold binary; dsimp only; split <;> trivial
  | _ => trivial

theorem binary_free (hs : s.Sound gone) (op : Syntax.BinaryOp) {a b : Value} (ha : a.Held (s.live gone))
    (hb : b.Held (s.live gone)) : (s.free gone).binary op a b = s.binary op a b := by
  cases op with
  | add => simp only [binary, display_free hs ha, display_free hs hb]
  | _ => rfl

theorem callStringMethod_held (s : Store) (method : StringMethod) (text : String) (args : List Value) :
    (s.callStringMethod method text args).Held kept := by
  cases method <;> trivial

variable {args : List Value}

theorem textArgument_free (hs : s.Sound gone) (hargs : ∀ v ∈ args, v.Held (s.live gone)) (i : Nat) :
    (s.free gone).textArgument args i = s.textArgument args i := by
  have hshown := display_free hs (argument_held hargs i)
  rw [textArgument, textArgument]
  generalize argument args i = v at hshown
  cases v with
  | undefined => rfl
  | _ => exact hshown

theorem callPath_free (hs : s.Sound gone) (function : PathFunction) (hargs : ∀ v ∈ args, v.Held (s.live gone)) :
    (s.free gone).callPath function args = s.callPath function args := by
  have htext := funext (textArgument_free hs hargs)
  cases function <;> simp only [callPath, htext]

theorem callStringMethod_free (hs : s.Sound gone) (method : StringMethod) (text : String)
    (hargs : ∀ v ∈ args, v.Held (s.live gone)) :
    (s.free gone).callStringMethod method text args = s.callStringMethod method text args := by
  cases args with
  | nil => rfl
  | cons v args => simp only [callStringMethod, display_free hs (hargs v (List.mem_cons_self ..))]

theorem map_display_free (hs : s.Sound gone) (hargs : ∀ v ∈ args, v.Held (s.live gone)) :
    args.map (s.free gone).display = args.map s.display :=
  List.map_congr_left fun v hv => display_free hs (hargs v hv)

end Store

/-! ### Which things may be freed -/

section

variable [DecidablePred (· ∈ kept)]

instance (scope : Scope) : Decidable (Scope.Held kept scope) :=
  decidable_of_iff (scope ≠ [] ∧ ∀ f ∈ scope, .frame f ∈ kept) ⟨fun h => ⟨h.1, h.2⟩, fun h => ⟨h.1, h.2⟩⟩

instance (c : Closure) : Decidable (c.Held kept) :=
  decidable_of_iff (Scope.Held kept c.scope ∧ .object c.context ∈ kept) ⟨fun h => ⟨h.1, h.2⟩, fun h => ⟨h.1, h.2⟩⟩

instance : (operation : Operation) → Decidable (operation.Held kept)
  | .arrayMethod _ a => inferInstanceAs (Decidable (.array a ∈ kept))
  | .print _ | .stringify | .parseJson | .math _ | .greatest | .least | .stringMethod _ _ | .path _ | .host _ | .sha256
  | .toString | .toNumber | .toBoolean | .countArguments => isTrue trivial

mutual

instance decidableHeld : (v : Value) → Decidable (v.Held kept)
  | .array a => inferInstanceAs (Decidable (.array a ∈ kept))
  | .object o => inferInstanceAs (Decidable (.object o ∈ kept))
  | .function c => inferInstanceAs (Decidable (c.hold = .strong ∧ c.Held kept))
  | .native n => inferInstanceAs (Decidable (n.operation.Held kept))
  | .exports _ _ entries => decidableAllHeld entries
  | .undefined | .null | .bool _ | .number _ | .string _ => isTrue trivial

instance decidableAllHeld : (entries : List (String × Value)) → Decidable (Value.AllHeld kept entries)
  | [] => isTrue trivial
  | (_, v) :: rest =>
    have := decidableHeld v
    have := decidableAllHeld rest
    inferInstanceAs (Decidable (v.Held kept ∧ Value.AllHeld kept rest))

end

instance (f : FrameId) : (v : Value) → Decidable (v.HeldIn kept f)
  | .function c => inferInstanceAs (Decidable (c.Held kept ∧ (c.hold = .weak ↔ c.scope.head? = some f)))
  | .array a => decidableHeld (.array a)
  | .object o => decidableHeld (.object o)
  | .native n => decidableHeld (.native n)
  | .exports i url entries => decidableHeld (.exports i url entries)
  | .undefined | .null | .bool _ | .number _ | .string _ => isTrue trivial

end

theorem EachIn.iff_lt {α : Type} {gone : Nat → Bool} {P : Nat → α → Prop} {rows : Array (List α)} :
    EachIn gone P rows ↔ ∀ i < rows.size, gone i = false → ∀ a ∈ rows.getD i [], P i a := by
  refine ⟨fun h i _ => h i, fun h i hi a ha => ?_⟩
  by_cases hlt : i < rows.size
  · exact h i hlt hi a ha
  · rw [Array.getD_eq_getD_getElem?, Array.getElem?_eq_none (Nat.le_of_not_lt hlt)] at ha
    exact absurd ha List.not_mem_nil

instance {α : Type} {gone : Nat → Bool} {P : Nat → α → Prop} [∀ i, DecidablePred (P i)] {rows : Array (List α)} :
    Decidable (EachIn gone P rows) := decidable_of_iff _ EachIn.iff_lt.symm

namespace Store

instance : DecidablePred s.Has
  | .array a => inferInstanceAs (Decidable (a < s.arrays.size))
  | .object o => inferInstanceAs (Decidable (o < s.objects.size))
  | .frame f => inferInstanceAs (Decidable (f < s.frames.size))

instance : DecidablePred (· ∈ s.live gone) := fun t => inferInstanceAs (Decidable (s.Has t ∧ gone t = false))

/-- A store can be freed of these things if nothing else names them. -/
abbrev Frees (s : Store) (things : List Thing) : Prop := s.Sound fun t => decide (t ∈ things)

instance (things : List Thing) : Decidable (s.Frees things) :=
  let gone : Thing → Bool := fun t => decide (t ∈ things)
  decidable_of_iff
    ((∀ t ∈ things, s.Has t) ∧
      EachIn (gone ∘ .array) (fun _ v => v.Held (s.live gone)) s.arrays ∧
      EachIn (gone ∘ .object) (fun _ e => e.2.Held (s.live gone)) s.objects ∧
      EachIn (gone ∘ .frame) (fun f e => e.2.value.HeldIn (s.live gone) f) s.frames)
    ⟨fun h => ⟨fun t ht => h.1 t (of_decide_eq_true ht), h.2.1, h.2.2.1, h.2.2.2⟩,
      fun h => ⟨fun t ht => h.there t (decide_eq_true ht), h.held.arrays, h.held.objects, h.held.frames⟩⟩

end Store
end Script
end ScriptImport
