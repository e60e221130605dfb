/-
# Steps of scripts keep what is held

All that a script does in one step keeps what is held: making new things and changing what is there, looking names up
and binding them, reading and writing properties, and calling functions that are no scripts (`Run.keeps_callNative`).
Only binding a name changes the bindings (`Run.keeps_declare`, `Run.keeps_assign`).
-/

import ScriptImport.Proofs.Keeps
import ScriptImport.Script.Global

namespace ScriptImport

open Script

namespace Script

/-- An error that names only what is kept, and that is not that a function has lost its scope. -/
def EvalError.Held (kept : Set Thing) : EvalError → Prop
  | thrown v => v.Held kept
  | misuse (.lostScope _) => False
  | _ => True

theorem EvalError.Held.mono {kept kept' : Set Thing} {e : EvalError} (hkept : kept ⊆ kept') (h : e.Held kept) :
    e.Held kept' := by
  cases e with
  | thrown v => exact Value.Held.mono hkept h
  | misuse m => cases m <;> exact h
  | _ => trivial

end Script

namespace Grip

abbrev value : Grip Value := ⟨Value.Held, fun h hv => hv.mono h⟩

/-- An object that is kept. -/
abbrev object : Grip ObjectId := ⟨fun kept o => .object o ∈ kept, fun h ho => h ho⟩

/-- A frame that is kept. -/
abbrev frame : Grip FrameId := ⟨fun kept f => .frame f ∈ kept, fun h hf => h hf⟩

abbrev scope : Grip Scope := ⟨Scope.Held, fun h hscope => hscope.mono h⟩

abbrev entry : Grip (String × Value) := ⟨fun kept e => e.2.Held kept, fun h he => he.mono h⟩

abbrev evalError : Grip EvalError := ⟨EvalError.Held, EvalError.Held.mono⟩

end Grip

namespace Script

open Syntax Run

instance : HasStore Store EvalError := ⟨id, fun _ s => s, .evalError⟩

/-- What is new is not gone. -/
theorem Store.Sound.not_gone {gone : Thing → Bool} {s : Store} (hs : s.Sound gone) {t : Thing} (ht : ¬ s.Has t) :
    gone t = false := by
  cases hgone : gone t with
  | false => rfl
  | true => exact absurd (hs.there t hgone) ht

namespace Run

variable {α : Type} {gone : Thing → Bool} {K : Grip α} {kept : Set Thing}

/-- What depends on the store as it is, but not on what is gone. -/
theorem keeps_bind_get {f : Store → Run α}
    (h : ∀ s : Store, s.Sound gone → kept ⊆ s.live gone →
      f (s.free gone) = f s ∧ Keeps gone K (s.live gone) (f s)) : Keeps gone K kept (get >>= f) := .bind_get h

/-! ### New things, and changes of what is there -/

/-- A change of the store that leaves the frames as they are. -/
theorem keeps_modifyGet {f : Store → α × Store}
    (h : ∀ s : Store, s.Sound gone → kept ⊆ s.live gone →
      (f s).2.frames = s.frames ∧ s.extent ≤ (f s).2.extent ∧ (f s).2.Sound gone ∧
        K.Held ((f s).2.live gone) (f s).1 ∧ f (s.free gone) = ((f s).1, (f s).2.free gone)) :
    Keeps gone K kept (MonadStateOf.modifyGet f : Run α) := by
  refine .modifyGet fun s hs hsub => ?_
  obtain ⟨hframes, hle, hsound, hheld, hfreed⟩ := h s hs hsub
  exact ⟨⟨[], .other hframes hle (fun _ => hsound) .done⟩, hheld, hfreed⟩

theorem keeps_identity : Keeps gone (.any Identity) kept identity :=
  keeps_modifyGet fun s hs _ => by
    have hle : s.extent ≤ { s with identities := s.identities + 1 }.extent := by
      simp [Extent.le_iff, Store.extent]
    have hheld := hs.held_in hle
    exact ⟨rfl, hle, hs.grown hle ⟨hheld.arrays, hheld.objects, hheld.frames⟩, trivial, rfl⟩

theorem keeps_newNative (name : String) (operation : Operation) (h : operation.Held kept) :
    Keeps gone .value kept (newNative name operation) :=
  keeps_identity.bind fun _ i hkept _ => .pure (a := Value.native ⟨i, name, operation⟩) (Operation.Held.mono h hkept)

theorem keeps_newArray {items : List Value} (hitems : ∀ v ∈ items, v.Held kept) :
    Keeps gone .value kept (newArray items) :=
  keeps_modifyGet fun s hs hsub => by
    have hle : s.extent ≤ { s with arrays := s.arrays.push items }.extent := by
      simp [Extent.le_iff, Store.extent]
    have hheld := hs.held_in hle
    have hnew : gone (.array s.arrays.size) = false := hs.not_gone (Nat.lt_irrefl _)
    have harrays := hheld.arrays.push fun v hv => (hitems v hv).mono (hsub.trans (Store.live_mono hle))
    refine ⟨rfl, hle, hs.grown hle ⟨harrays, hheld.objects, hheld.frames⟩, ⟨?_, hnew⟩, ?_⟩
    · simp [Store.Has]
    · simp [Store.free, emptied_push, hnew]

theorem keeps_newObject {properties : Dict Value} (hproperties : ∀ e ∈ properties, e.2.Held kept) :
    Keeps gone .object kept (newObject properties) :=
  keeps_modifyGet fun s hs hsub => by
    have hle : s.extent ≤ { s with objects := s.objects.push properties }.extent := by
      simp [Extent.le_iff, Store.extent]
    have hheld := hs.held_in hle
    have hnew : gone (.object s.objects.size) = false := hs.not_gone (Nat.lt_irrefl _)
    have hobjects := hheld.objects.push fun e he => (hproperties e he).mono (hsub.trans (Store.live_mono hle))
    refine ⟨rfl, hle, hs.grown hle ⟨hheld.arrays, hobjects, hheld.frames⟩, ⟨?_, hnew⟩, ?_⟩
    · simp [Store.Has]
    · simp [Store.free, emptied_push, hnew]

theorem keeps_newFrame : Keeps gone .frame kept newFrame := by
  refine .modifyGet fun s hs _ => ?_
  have hnew : gone (.frame s.frames.size) = false := hs.not_gone (Nat.lt_irrefl _)
  refine ⟨⟨[], .frame .done⟩, ⟨?_, hnew⟩, ?_⟩
  · simp [HasStore.store, Store.Has]
  · simp [HasStore.free, HasStore.store, HasStore.withStore, Store.free, emptied_push, hnew]

/-- A new scope inside another one. -/
theorem keeps_inner {scope : Scope} (hscope : ∀ f ∈ scope, .frame f ∈ kept) :
    Keeps gone .scope kept (inner scope) :=
  keeps_newFrame.bind fun _ f hkept hf =>
    .pure ⟨List.cons_ne_nil f scope, List.forall_mem_cons.2 ⟨hf, fun g hg => hkept (hscope g hg)⟩⟩

theorem keeps_modifyArray {a : ArrayId} (ha : .array a ∈ kept) {change : List Value → List Value}
    (h : ∀ kept', kept ⊆ kept' → ∀ items, (∀ v ∈ items, v.Held kept') → ∀ v ∈ change items, v.Held kept') :
    Keeps gone (.any Unit) kept (modifyArray a change) :=
  keeps_modifyGet fun s hs hsub => by
    have hle : s.extent ≤ { s with arrays := s.arrays.modify a change }.extent := by
      simp [Store.extent]
    have hheld := hs.held_in hle
    have harrays := hheld.arrays.modify (i := a) fun _ => h _ (hsub.trans (Store.live_mono hle))
    refine ⟨rfl, hle, hs.grown hle ⟨harrays, hheld.objects, hheld.frames⟩, trivial, ?_⟩
    have hstays : (gone ∘ .array) a = false := (hsub ha).2
    simp [Store.free, emptied_modify hstays]

theorem keeps_modifyObject {o : ObjectId} (ho : .object o ∈ kept) {change : Dict Value → Dict Value}
    (h : ∀ kept', kept ⊆ kept' → ∀ properties : Dict Value, (∀ e ∈ properties, e.2.Held kept') →
      ∀ e ∈ change properties, e.2.Held kept') :
    Keeps gone (.any Unit) kept (modifyObject o change) :=
  keeps_modifyGet fun s hs hsub => by
    have hle : s.extent ≤ { s with objects := s.objects.modify o change }.extent := by
      simp [Store.extent]
    have hheld := hs.held_in hle
    have hobjects := hheld.objects.modify (i := o) fun _ => h _ (hsub.trans (Store.live_mono hle))
    refine ⟨rfl, hle, hs.grown hle ⟨hheld.arrays, hobjects, hheld.frames⟩, trivial, ?_⟩
    have hstays : (gone ∘ .object) o = false := (hsub ho).2
    simp [Store.free, emptied_modify hstays]

theorem keeps_print (stream : Stream) (line : String) : Keeps gone (.any Unit) kept (print stream line) := by
  cases stream <;> exact keeps_modifyGet fun s hs _ =>
    ⟨rfl, le_rfl, ⟨hs.there, hs.held.arrays, hs.held.objects, hs.held.frames⟩, trivial, rfl⟩

theorem keeps_insertProperty {o : ObjectId} (ho : .object o ∈ kept) (key : String) {v : Value} (hv : v.Held kept) :
    Keeps gone (.any Unit) kept (modifyObject o fun properties => Dict.insert properties key v) :=
  keeps_modifyObject ho fun _ hkept _ hall e he => by
    rcases Dict.eq_or_mem_of_mem_insert he with rfl | he
    · exact hv.mono hkept
    · exact hall e he

/-! ### Names -/

/-- Binding a name in a frame is all that changes bindings. -/
theorem keeps_bind {f : FrameId} (hf : .frame f ∈ kept) (name : String) {v : Value} (hv : v.Held kept)
    (mutable : Bool) :
    Keeps gone (.any Unit) kept (modifyFrame f fun frame => Dict.insert frame name ⟨v.storedIn f, mutable⟩) := by
  refine .modifyGet fun s hs hsub => ⟨⟨[⟨f, name, v⟩], .bind (hsub hf) (hv.mono hsub) .done⟩, trivial, ?_⟩
  have hstays : (gone ∘ .frame) f = false := (hsub hf).2
  simp [HasStore.free, HasStore.store, HasStore.withStore, Store.free, emptied_modify hstays]

theorem keeps_declare {scope : Scope} (hscope : ∀ f ∈ scope, .frame f ∈ kept) (name : String) {v : Value}
    (hv : v.Held kept) (mutable : Bool) : Keeps gone (.any Unit) kept (declare scope name v mutable) := by
  cases scope with
  | nil => exact .pure trivial
  | cons f outer => exact keeps_bind (hscope f (List.mem_cons_self ..)) name hv mutable

theorem keeps_assign (name : String) {v : Value} (hv : v.Held kept) {scope : Scope}
    (hscope : ∀ f ∈ scope, .frame f ∈ kept) : Keeps gone (.any Bool) kept (assign name v scope) := by
  induction scope with
  | nil => exact .pure trivial
  | cons f outer ih =>
    obtain ⟨hf, houter⟩ := List.forall_mem_cons.1 hscope
    refine keeps_bind_get fun s hs hsub => ⟨?_, ?_⟩
    · rw [Store.frame_free (hsub hf).2]
    · cases Dict.get? (s.frame f) name with
      | none => exact (ih houter).mono hsub
      | some b =>
        obtain ⟨held, mutable⟩ := b
        cases mutable with
        | false => exact .throw trivial
        | true => exact (keeps_bind (hsub hf) name (hv.mono hsub) true).bind fun _ _ _ _ => .pure trivial

/-- A scope that is kept stays. -/
theorem not_gone_of_held {s : Store} {scope : Scope} (hscope : Scope.Held kept scope) (hsub : kept ⊆ s.live gone) :
    ∀ f ∈ scope, gone (.frame f) = false := fun f hf => (hsub (hscope.mem f hf)).2

theorem keeps_readName {context : ObjectId} (hcontext : .object context ∈ kept) {scope : Scope}
    (hscope : Scope.Held kept scope) (name : String) : Keeps gone .value kept (readName context scope name) := by
  refine keeps_bind_get fun s hs hsub => ⟨?_, ?_⟩
  · rw [Store.resolve?_free (hsub hcontext).2 (not_gone_of_held hscope hsub)]
  · cases hv : s.resolve? context scope name with
    | none => exact .throw trivial
    | some v => exact .pure (hs.resolve? (hsub hcontext) (not_gone_of_held hscope hsub) hv)

theorem keeps_writeName {context : ObjectId} (hcontext : .object context ∈ kept) {scope : Scope}
    (hscope : Scope.Held kept scope) (name : String) {v : Value} (hv : v.Held kept) :
    Keeps gone (.any Unit) kept (writeName context scope name v) := by
  refine (keeps_assign name hv hscope.mem).bind fun kept₁ bound hkept₁ _ => ?_
  cases bound with
  | true => exact .pure trivial
  | false =>
    refine keeps_bind_get fun s hs hsub => ⟨?_, ?_⟩
    · rw [Store.object_free (hsub (hkept₁ hcontext)).2]
    · cases Dict.contains (s.object context) name with
      | true => exact keeps_insertProperty (hsub (hkept₁ hcontext)) name (hv.mono (hkept₁.trans hsub))
      | false => exact .throw trivial

theorem keeps_newClosure {context : ObjectId} (hcontext : .object context ∈ kept) {scope : Scope}
    (hscope : Scope.Held kept scope) (function : Function) :
    Keeps gone .value kept (newClosure context scope function) :=
  keeps_identity.bind fun _ i hkept _ =>
    .pure (a := Value.function ⟨i, function, scope, context, .strong⟩) ⟨rfl, hscope.mono hkept, hkept hcontext⟩

theorem keeps_newFunction {context : ObjectId} (hcontext : .object context ∈ kept) {scope : Scope}
    (hscope : Scope.Held kept scope) (function : Function) :
    Keeps gone .value kept (newFunction context scope function) := by
  unfold newFunction
  cases function.name with
  | none => exact keeps_newClosure hcontext hscope function
  | some name =>
    refine (keeps_inner hscope.mem).bind fun kept₁ own hkept₁ hown => ?_
    refine (keeps_newClosure (hkept₁ hcontext) hown function).bind fun kept₂ v hkept₂ hv => ?_
    exact (keeps_declare (hown.mono hkept₂).mem name hv false).bind fun _ _ hkept₃ _ => .pure (hv.mono hkept₃)

theorem keeps_hoistDeclaration {context : ObjectId} (hcontext : .object context ∈ kept) {scope : Scope}
    (hscope : Scope.Held kept scope) (declaration : Declaration) :
    Keeps gone (.any Unit) kept (hoistDeclaration context scope declaration) := by
  cases declaration with
  | function name params body =>
    exact (keeps_newClosure hcontext hscope _).bind fun _ v hkept hv =>
      keeps_declare (hscope.mono hkept).mem name hv true
  | _ => exact .pure trivial

theorem keeps_hoist {context : ObjectId} (hcontext : .object context ∈ kept) {scope : Scope}
    (hscope : Scope.Held kept scope) (statements : List Stmt) :
    Keeps gone (.any Unit) kept (hoist context scope statements) := by
  induction statements generalizing kept with
  | nil => exact .pure trivial
  | cons stmt rest ih =>
    cases stmt with
    | declare declaration =>
      exact (keeps_hoistDeclaration hcontext hscope declaration).bind fun _ _ hkept _ =>
        ih (hkept hcontext) (hscope.mono hkept)
    | _ => exact ih hcontext hscope

theorem keeps_bindParams {scope : Scope} (hscope : Scope.Held kept scope) (params : List String) {args : List Value}
    (hargs : ∀ v ∈ args, v.Held kept) : Keeps gone (.any Unit) kept (bindParams scope params args) := by
  induction params generalizing args kept with
  | nil => exact .pure trivial
  | cons p params ih =>
    exact (keeps_declare hscope.mem p (argument_held hargs 0) true).bind fun _ _ hkept _ =>
      ih (hscope.mono hkept) fun v hv => (hargs v (List.mem_of_mem_tail hv)).mono hkept

/-- **A function that is held finds its scope** when it is called. -/
theorem keeps_openScope {c : Closure} (hc : c.Held kept) {args : List Value} (hargs : ∀ v ∈ args, v.Held kept) :
    Keeps gone .scope kept (openScope c args) := by
  refine keeps_bind_get fun s hs hsub => ?_
  have hscope : s.hasScope c.scope = true := Store.hasScope_of_held (hc.scope.mono hsub)
  rw [Store.hasScope_free, hscope]
  refine ⟨rfl, (keeps_inner (hc.scope.mono hsub).mem).bind fun kept₁ scope hkept₁ hinner => ?_⟩
  have hargs₁ : ∀ v ∈ args, v.Held kept₁ := fun v hv => (hargs v hv).mono (hsub.trans hkept₁)
  exact (keeps_bindParams hinner c.function.params hargs₁).bind fun _ _ hkept₂ _ => .pure (hinner.mono hkept₂)

/-! ### Properties -/

/-- A misuse that is not that a function has lost its scope. -/
theorem keeps_misuse {m : Misuse} (hm : ∀ name, m ≠ .lostScope name) : Keeps gone K kept (misuse m) := by
  refine .throw ?_
  cases m with
  | lostScope name => exact absurd rfl (hm name)
  | _ => trivial

theorem keeps_arrayProperty {a : ArrayId} (ha : .array a ∈ kept) (key : String) :
    Keeps gone .value kept (arrayProperty a key) := by
  refine keeps_bind_get fun s hs hsub => ⟨?_, ?_⟩
  · rw [Store.array_free (hsub ha).2]
  · dsimp only
    split
    · exact .pure trivial
    · split
      next i _ => exact .pure (argument_held (hs.array (hsub ha)) i)
      next =>
        split
        next method _ => exact keeps_newNative key (.arrayMethod method a) (hsub ha)
        next => exact .pure trivial

theorem keeps_stringProperty (text key : String) : Keeps gone .value kept (stringProperty text key) := by
  unfold stringProperty
  split
  · exact .pure trivial
  · split
    next i _ => cases text.toList[i]? <;> exact .pure trivial
    next =>
      split
      next method _ => exact keeps_newNative key (.stringMethod method text) trivial
      next => exact .pure trivial

theorem keeps_getProperty {v : Value} (hv : v.Held kept) (key : String) :
    Keeps gone .value kept (getProperty v key) := by
  refine keeps_bind_get fun s hs hsub => ⟨?_, ?_⟩
  · cases v with
    | object o =>
      dsimp only
      rw [Store.object_free (hsub hv).2]
    | _ => rfl
  cases v with
  | undefined => exact keeps_misuse nofun
  | null => exact keeps_misuse nofun
  | object o =>
    dsimp only
    cases hget : Dict.get? (s.object o) key with
    | none => exact .pure trivial
    | some w => exact .pure (hs.object (hsub hv) _ (Dict.mem_of_get? hget))
  | exports identity url entries =>
    dsimp only
    cases hget : Dict.get? entries key with
    | none => exact .pure trivial
    | some w => exact .pure ((Value.allHeld_iff.1 hv _ (Dict.mem_of_get? hget)).mono hsub)
  | array a => exact keeps_arrayProperty (hsub hv) key
  | string text => exact keeps_stringProperty text key
  | function c =>
    dsimp only
    split
    · exact .pure trivial
    · split <;> exact .pure trivial
  | native n =>
    dsimp only
    split <;> exact .pure trivial
  | bool b => exact .pure trivial
  | number x => exact .pure trivial

theorem setAt_held {items : List Value} (hitems : ∀ v ∈ items, v.Held kept) (i : Nat) {v : Value}
    (hv : v.Held kept) : ∀ w ∈ setAt items i v, w.Held kept := by
  intro w hw
  unfold setAt at hw
  split at hw
  · exact (List.mem_or_eq_of_mem_set hw).elim (hitems w) fun heq => heq ▸ hv
  · simp only [List.mem_append, List.mem_replicate, List.mem_singleton] at hw
    rcases hw with (hw | ⟨-, rfl⟩) | rfl
    · exact hitems w hw
    · trivial
    · exact hv

theorem keeps_setProperty {target : Value} (htarget : target.Held kept) (key : String) {v : Value} (hv : v.Held kept) :
    Keeps gone (.any Unit) kept (setProperty target key v) := by
  refine keeps_bind_get fun s hs hsub => ⟨?_, ?_⟩
  · have hshown := Store.display_free hs (htarget.mono hsub)
    cases target with
    | object o => rfl
    | array a =>
      dsimp only
      rw [Store.array_free (hsub htarget).2]
    | exports identity url entries => rfl
    | _ =>
      dsimp only
      rw [hshown]
  cases target with
  | object o => exact keeps_insertProperty (hsub htarget) key (hv.mono hsub)
  | array a =>
    dsimp only
    split
    · split
      · exact keeps_misuse nofun
      · exact keeps_modifyArray (hsub htarget) fun _ hkept _ hall => setAt_held hall _ (hv.mono (hsub.trans hkept))
    · exact keeps_misuse nofun
  | _ => exact keeps_misuse nofun

/-! ### Functions that are no scripts -/

mutual

theorem keeps_ofJson : ∀ (j : Json) {kept : Set Thing}, Keeps gone .value kept (ofJson j)
  | .null, _ => by simp only [ofJson]; exact .pure trivial
  | .bool _, _ => by simp only [ofJson]; exact .pure trivial
  | .integer _, _ => by simp only [ofJson]; exact .pure trivial
  | .float _, _ => by simp only [ofJson]; exact .pure trivial
  | .string _, _ => by simp only [ofJson]; exact .pure trivial
  | .array items, _ => by
    simp only [ofJson]
    exact (keeps_ofJsonItems items).bind fun _ _ _ hvs => keeps_newArray hvs
  | .object members, _ => by
    simp only [ofJson]
    exact (keeps_ofJsonMembers members).bind fun _ ps _ hps =>
      (keeps_newObject hps).bind fun _ o _ ho => .pure (a := Value.object o) ho

theorem keeps_ofJsonItems : ∀ (js : List Json) {kept : Set Thing}, Keeps gone (.list .value) kept (ofJsonItems js)
  | [], _ => by simp only [ofJsonItems]; exact .pure nofun
  | j :: js, _ => by
    simp only [ofJsonItems]
    exact (keeps_ofJson j).bind fun _ v _ hv => (keeps_ofJsonItems js).bind fun _ vs hkept hvs =>
      .pure (a := v :: vs) (List.forall_mem_cons.2 ⟨hv.mono hkept, hvs⟩)

theorem keeps_ofJsonMembers : ∀ (ms : List (String × Json)) {kept : Set Thing},
    Keeps gone (.list .entry) kept (ofJsonMembers ms)
  | [], _ => by simp only [ofJsonMembers]; exact .pure nofun
  | (key, j) :: ms, _ => by
    simp only [ofJsonMembers]
    exact (keeps_ofJson j).bind fun _ v _ hv => (keeps_ofJsonMembers ms).bind fun _ es hkept hes =>
      .pure (a := (key, v) :: es) (List.forall_mem_cons.2 ⟨hv.mono hkept, hes⟩)

end

theorem eq_error_of_map {ε α β : Type} {x : Except ε α} {f : α → β} {e : ε} (h : f <$> x = .error e) :
    x = .error e := by
  cases x with
  | error e' => exact congrArg Except.error (Except.error.inj h)
  | ok a => cases h

section

variable {container : Store.Container → Except Misuse Json}

mutual

theorem jsonWith_eq_error (h : ∀ c m, container c = .error m → m = .circular) :
    ∀ {v : Value} {m : Misuse}, jsonWith container v = .error m → m = .circular
  | .array _, _, hm => h _ _ (eq_error_of_map hm)
  | .object _, _, hm => h _ _ (eq_error_of_map hm)
  | .exports _ _ _, _, hm => jsonEntries_eq_error h (eq_error_of_map hm)

theorem jsonEntries_eq_error (h : ∀ c m, container c = .error m → m = .circular) :
    ∀ {entries : List (String × Value)} {m : Misuse}, jsonEntries container entries = .error m → m = .circular
  | (key, v) :: rest, m, hm => by
    rw [jsonEntries] at hm
    cases hfirst : jsonWith container v with
    | error m' =>
      rw [hfirst] at hm
      cases hm
      exact jsonWith_eq_error h hfirst
    | ok first =>
      rw [hfirst] at hm
      cases hrest : jsonEntries container rest with
      | error m' =>
        rw [hrest] at hm
        cases hm
        exact jsonEntries_eq_error h hrest
      | ok rest' =>
        rw [hrest] at hm
        cases hm

end

theorem jsonItems_eq_error (h : ∀ c m, container c = .error m → m = .circular) {vs : List Value} {m : Misuse}
    (hm : jsonItems container vs = .error m) : m = .circular := by
  unfold jsonItems at hm
  induction vs with
  | nil => cases hm
  | cons v vs ih =>
    rw [List.mapM_cons] at hm
    cases hfirst : jsonWith container v with
    | error m' =>
      rw [hfirst] at hm
      cases hm
      exact jsonWith_eq_error h hfirst
    | ok first =>
      rw [hfirst] at hm
      exact ih (eq_error_of_map hm)

end

theorem containerJson_eq_error {s : Store} {budget : Nat} {path : List Store.Container} {c : Store.Container}
    {m : Misuse} (hm : s.containerJson budget path c = .error m) : m = .circular := by
  induction budget generalizing path c m with
  | zero =>
    cases hm
    rfl
  | succ budget ih =>
    cases c with
    | array a =>
      rw [Store.containerJson] at hm
      split at hm
      · cases hm
        rfl
      · exact jsonItems_eq_error (fun _ _ => ih) (eq_error_of_map hm)
    | object o =>
      rw [Store.containerJson] at hm
      split at hm
      · cases hm
        rfl
      · exact jsonEntries_eq_error (fun _ _ => ih) (eq_error_of_map hm)

/-- A value has JSON, unless it contains itself. -/
theorem toJson_eq_error {s : Store} {v : Value} {m : Misuse} (hm : s.toJson v = .error m) : m = .circular :=
  jsonWith_eq_error (fun _ _ => containerJson_eq_error) hm

theorem keeps_callArrayMethod (method : ArrayMethod) {a : ArrayId} (ha : .array a ∈ kept) {args : List Value}
    (hargs : ∀ v ∈ args, v.Held kept) : Keeps gone .value kept (callArrayMethod method a args) := by
  cases method with
  | push =>
    have hpush : Keeps gone (.any Unit) kept (modifyArray a (· ++ args)) :=
      keeps_modifyArray ha fun _ hkept _ hitems =>
        List.forall_mem_append.2 ⟨hitems, fun v hv => (hargs v hv).mono hkept⟩
    refine hpush.bind fun kept₁ _ hkept₁ _ => keeps_bind_get fun s hs hsub => ⟨?_, .pure trivial⟩
    rw [Store.array_free (hsub (hkept₁ ha)).2]
  | join =>
    refine keeps_bind_get fun s hs hsub => ⟨?_, .pure trivial⟩
    have hseparator := Store.display_free hs ((argument_held hargs 0).mono hsub)
    generalize argument args 0 = v at hseparator
    cases v with
    | undefined =>
      dsimp only
      rw [Store.join_free hs _ (hsub ha)]
    | _ =>
      dsimp only at hseparator ⊢
      rw [hseparator, Store.join_free hs _ (hsub ha)]
  | includes =>
    refine keeps_bind_get fun s hs hsub => ⟨?_, .pure trivial⟩
    rw [Store.array_free (hsub ha).2]

/-- **Functions that are no scripts** keep what is held. -/
theorem keeps_callNative {operation : Operation} (hoperation : operation.Held kept) {args : List Value}
    (hargs : ∀ v ∈ args, v.Held kept) : Keeps gone .value kept (callNative operation args) := by
  refine keeps_bind_get fun s hs hsub => ?_
  have hargs : ∀ v ∈ args, v.Held (s.live gone) := fun v hv => (hargs v hv).mono hsub
  have hfirst := argument_held hargs 0
  cases operation with
  | print stream =>
    dsimp only
    rw [Store.map_display_free hs hargs]
    exact ⟨rfl, (keeps_print stream _).bind fun _ _ _ _ => .pure trivial⟩
  | stringify =>
    dsimp only
    rw [Store.toJson_free hs hfirst]
    refine ⟨rfl, ?_⟩
    split
    next => exact .pure trivial
    next => exact .pure trivial
    next m hm =>
      obtain rfl := toJson_eq_error hm
      exact keeps_misuse nofun
  | parseJson =>
    dsimp only
    rw [Store.display_free hs hfirst]
    refine ⟨rfl, ?_⟩
    split
    next => exact keeps_ofJson _
    next => exact .throw trivial
  | arrayMethod method a => exact ⟨rfl, keeps_callArrayMethod method (hsub hoperation) hargs⟩
  | stringMethod method text =>
    dsimp only
    rw [Store.callStringMethod_free hs method text hargs]
    exact ⟨rfl, .pure (Store.callStringMethod_held s method text args)⟩
  | path f =>
    dsimp only
    rw [Store.callPath_free hs f hargs]
    exact ⟨rfl, .pure trivial⟩
  | host q => exact ⟨rfl, .pure (answer_held s.host q)⟩
  | sha256 =>
    dsimp only
    rw [Store.textArgument_free hs hargs]
    exact ⟨rfl, .pure trivial⟩
  | toString =>
    dsimp only
    rw [Store.display_free hs hfirst]
    exact ⟨rfl, .pure trivial⟩
  | _ => exact ⟨rfl, .pure trivial⟩

/-! ### Contexts -/

theorem keeps_newLibrary {constants : Dict Value} (hconstants : ∀ e ∈ constants, e.2.Held kept)
    {functions : List (String × Operation)} (hfunctions : ∀ f ∈ functions, f.2.Held kept) :
    Keeps gone .value kept (newLibrary constants functions) := by
  have hnatives : Keeps gone (.list .entry) kept
      (functions.mapM fun f => do return (f.1, ← newNative f.1 f.2)) :=
    .mapM fun f hf _ hkept => (keeps_newNative f.1 f.2 ((hfunctions f hf).mono hkept)).bind fun _ v _ hv =>
      .pure (a := (f.1, v)) hv
  refine hnatives.bind fun kept₁ natives hkept₁ hnatives => ?_
  have hall : ∀ e ∈ Dict.insertAll constants natives, e.2.Held kept₁ := fun e he =>
    (Dict.mem_or_mem_of_mem_insertAll he).elim (hnatives e) fun he => (hconstants e he).mono hkept₁
  exact (keeps_newObject hall).bind fun _ o _ ho => .pure (a := Value.object o) ho

/-- **A new context** is held. -/
theorem keeps_newContext : Keeps gone .object kept newContext := by
  have hnone {kept : Set Thing} : ∀ e ∈ ([] : Dict Value), e.2.Held kept := fun _ h => absurd h List.not_mem_nil
  refine (keeps_newLibrary hnone (by simp [Operation.Held])).bind fun kept₁ console hkept₁ hconsole => ?_
  refine (keeps_newLibrary hnone (by simp [Operation.Held])).bind fun kept₂ json hkept₂ hjson => ?_
  refine (keeps_newLibrary (by simp [Value.Held]) (by simp [Operation.Held])).bind fun kept₃ math hkept₃ hmath => ?_
  refine (keeps_newNative "String" .toString trivial).bind fun kept₄ string hkept₄ hstring => ?_
  refine (keeps_newNative "Number" .toNumber trivial).bind fun kept₅ number hkept₅ hnumber => ?_
  refine (keeps_newNative "Boolean" .toBoolean trivial).bind fun kept₆ boolean hkept₆ hboolean => ?_
  have hentries : ∀ e ∈ [("console", console), ("JSON", json), ("Math", math), ("String", string), ("Number", number),
      ("Boolean", boolean)], e.2.Held kept₆ := by
    simp only [List.forall_mem_cons]
    exact ⟨hconsole.mono (hkept₂.trans (hkept₃.trans (hkept₄.trans (hkept₅.trans hkept₆)))),
      hjson.mono (hkept₃.trans (hkept₄.trans (hkept₅.trans hkept₆))), hmath.mono (hkept₄.trans (hkept₅.trans hkept₆)),
      hstring.mono (hkept₅.trans hkept₆), hnumber.mono hkept₆, hboolean, fun _ h => absurd h List.not_mem_nil⟩
  exact keeps_newObject fun e he =>
    (Dict.mem_or_mem_of_mem_insertAll he).elim (hentries e) fun he => absurd he List.not_mem_nil

end Run
end Script
end ScriptImport
