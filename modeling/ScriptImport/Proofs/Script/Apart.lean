/-
# Steps of scripts behind another store

All that a script does in one step is apart from itself behind another store: making new things and changing
what is there, looking names up and binding them, reading and writing properties, and calling functions that are
no scripts (`Run.apart_callNative`).
-/

import ScriptImport.Proofs.Apart
import ScriptImport.Proofs.Script.Shown
import ScriptImport.Script.Global

namespace ScriptImport

open Script

namespace Kind

abbrev value : Kind Value := ⟨Value.behind, Value.Within, fun h hv => hv.mono h⟩

abbrev object : Kind ObjectId := ⟨fun k o => k.objects + o, fun d o => o < d.objects, fun h ho => ho.trans_le h.2.1⟩

abbrev identity : Kind Identity := ⟨fun k i => k.identities + i, fun _ _ => True, fun _ _ => trivial⟩

abbrev frame : Kind FrameId := ⟨fun k f => k.frames + f, fun _ _ => True, fun _ _ => trivial⟩

abbrev scope : Kind Scope := ⟨Scope.behind, fun _ _ => True, fun _ _ => trivial⟩

abbrev entry : Kind (String × Value) := ⟨fun k e => (e.1, e.2.behind k), fun d e => e.2.Within d, fun h he => he.mono h⟩

abbrev flow : Kind Flow where
  behind k
    | .next => .next
    | .leave v => .leave (v.behind k)
  Within d
    | .next => True
    | .leave v => v.Within d
  mono {_ _ f} h hf := by
    cases f with
    | next => trivial
    | leave v => exact Value.Within.mono h hf

abbrev evalError : Kind EvalError := ⟨EvalError.behind, fun _ _ => True, fun _ _ => trivial⟩

end Kind

namespace Script

open Syntax Run

instance : World Store EvalError := ⟨Store.extent, Store.Closed, Store.behind, .evalError⟩

/-! ### New things, and changes of what is there -/

namespace Run

variable {α : Type} {old : Store} {K : Kind α} {d : Extent}

/-- What depends on the store as it is. -/
theorem apart_bind_get {f g : Store → Run α}
    (h : ∀ s : Store, s.Closed → d ≤ s.extent → Apart old K s.extent (f s) (g (old.behind s))) :
    Apart old K d (get >>= f) (get >>= g) := .bind_get h

/-- A change of the store. -/
theorem apart_modifyGet {f g : Store → α × Store}
    (h : ∀ s : Store, s.Closed → d ≤ s.extent →
      g (old.behind s) = (K.behind old.extent (f s).1, old.behind (f s).2) ∧
        (f s).2.Closed ∧ s.extent ≤ (f s).2.extent ∧ K.Within (f s).2.extent (f s).1) :
    Apart old K d (MonadStateOf.modifyGet f : Run α) (MonadStateOf.modifyGet g) := .modifyGet h

/-- A new identity. -/
theorem apart_identity : Apart old .identity d identity identity :=
  apart_modifyGet fun s hs _ => by
    have hle : s.extent ≤ { s with identities := s.identities + 1 }.extent := by
      simp [Extent.le_iff, Store.extent]
    have hs' := hs.mono hle
    exact ⟨rfl, ⟨hs'.arrays, hs'.objects, hs'.frames⟩, hle, trivial⟩

theorem apart_newNative (name : String) (operation : Operation) :
    Apart old .value d (newNative name operation) (newNative name (operation.behind old.extent)) :=
  apart_identity.bind fun _ i _ _ => .pure (a := Value.native ⟨i, name, operation⟩) trivial

theorem apart_newArray {items : List Value} (hitems : ∀ v ∈ items, v.Within d) :
    Apart old .value d (newArray items) (newArray (items.map (Value.behind old.extent))) :=
  apart_modifyGet fun s hs hd => by
    have hle : s.extent ≤ { s with arrays := s.arrays.push items }.extent := by
      simp [Extent.le_iff, Store.extent]
    have hs' := hs.mono hle
    refine ⟨?_, ⟨forall_mem_push hs'.arrays fun v hv => (hitems v hv).mono (hd.trans hle), hs'.objects, hs'.frames⟩,
      hle, ?_⟩
    · simp [Store.behind, Value.behind, Store.extent]
    · simp [Value.Within, Store.extent]

theorem apart_newObject {properties : Dict Value} (hproperties : ∀ e ∈ properties, e.2.Within d) :
    Apart old .object d (newObject properties) (newObject (Dict.mapValues (Value.behind old.extent) properties)) :=
  apart_modifyGet fun s hs hd => by
    have hle : s.extent ≤ { s with objects := s.objects.push properties }.extent := by
      simp [Extent.le_iff, Store.extent]
    have hs' := hs.mono hle
    refine ⟨?_, ⟨hs'.arrays, forall_mem_push hs'.objects fun e he => (hproperties e he).mono (hd.trans hle),
      hs'.frames⟩, hle, ?_⟩
    · simp [Store.behind, Store.extent]
    · simp [Store.extent]

/-- A new scope inside another one. -/
theorem apart_inner (scope : Scope) : Apart old .scope d (inner scope) (inner (Scope.behind old.extent scope)) := by
  have hframe : Apart old .frame d newFrame newFrame :=
    apart_modifyGet fun s hs _ => by
      have hle : s.extent ≤ { s with frames := s.frames.push [] }.extent := by
        simp [Extent.le_iff, Store.extent]
      have hs' := hs.mono hle
      refine ⟨?_, ⟨hs'.arrays, hs'.objects,
        forall_mem_push hs'.frames fun e he => absurd he List.not_mem_nil⟩, hle, trivial⟩
      simp [Store.behind, Store.extent, Dict.mapValues]
  exact hframe.bind fun _ f _ _ => .pure (a := f :: scope) trivial

theorem apart_modifyArray (a : ArrayId) {f g : List Value → List Value}
    (hg : ∀ items, (f items).map (Value.behind old.extent) = g (items.map (Value.behind old.extent)))
    (hf : ∀ d', d ≤ d' → ∀ items, (∀ v ∈ items, v.Within d') → ∀ v ∈ f items, v.Within d') :
    Apart old (.same Unit) d (modifyArray a f) (modifyArray (old.extent.arrays + a) g) :=
  apart_modifyGet fun s hs hd => by
    have hle : s.extent ≤ { s with arrays := s.arrays.modify a f }.extent := by
      simp [Store.extent]
    have hs' := hs.mono hle
    refine ⟨?_, ⟨forall_mem_modify hs'.arrays (hf _ (hd.trans hle)), hs'.objects, hs'.frames⟩, hle, trivial⟩
    simp only [Store.behind, map_modify (h := List.map (Value.behind old.extent)) s.arrays a hg]
    exact congrArg (fun arrays => ((), { old.behind s with arrays })) (modify_append_add ..)

theorem apart_modifyObject (o : ObjectId) {f g : Dict Value → Dict Value}
    (hg : ∀ properties, Dict.mapValues (Value.behind old.extent) (f properties)
      = g (Dict.mapValues (Value.behind old.extent) properties))
    (hf : ∀ d', d ≤ d' → ∀ properties, (∀ e ∈ properties, e.2.Within d') → ∀ e ∈ f properties, e.2.Within d') :
    Apart old (.same Unit) d (modifyObject o f) (modifyObject (old.extent.objects + o) g) :=
  apart_modifyGet fun s hs hd => by
    have hle : s.extent ≤ { s with objects := s.objects.modify o f }.extent := by
      simp [Store.extent]
    have hs' := hs.mono hle
    refine ⟨?_, ⟨hs'.arrays, forall_mem_modify hs'.objects (hf _ (hd.trans hle)), hs'.frames⟩, hle, trivial⟩
    simp only [Store.behind, map_modify (h := Dict.mapValues (Value.behind old.extent)) s.objects o hg]
    exact congrArg (fun objects => ((), { old.behind s with objects })) (modify_append_add ..)

theorem apart_modifyFrame (frame : FrameId) {f g : Frame → Frame}
    (hg : ∀ bindings, Dict.mapValues (Binding.behind old.extent) (f bindings)
      = g (Dict.mapValues (Binding.behind old.extent) bindings))
    (hf : ∀ d', d ≤ d' → ∀ bindings : Frame, (∀ e ∈ bindings, e.2.value.Within d') →
      ∀ e ∈ f bindings, e.2.value.Within d') :
    Apart old (.same Unit) d (modifyFrame frame f) (modifyFrame (old.extent.frames + frame) g) :=
  apart_modifyGet fun s hs hd => by
    have hle : s.extent ≤ { s with frames := s.frames.modify frame f }.extent := by
      simp [Store.extent]
    have hs' := hs.mono hle
    refine ⟨?_, ⟨hs'.arrays, hs'.objects, forall_mem_modify hs'.frames (hf _ (hd.trans hle))⟩, hle, trivial⟩
    simp only [Store.behind, map_modify (h := Dict.mapValues (Binding.behind old.extent)) s.frames frame hg]
    exact congrArg (fun frames => ((), { old.behind s with frames })) (modify_append_add ..)

theorem apart_print (stream : Stream) (line : String) :
    Apart old (.same Unit) d (print stream line) (print stream line) := by
  cases stream with
  | output =>
    exact apart_modifyGet fun s hs _ => ⟨by simp [Store.behind, String.append_assoc],
      ⟨hs.arrays, hs.objects, hs.frames⟩, le_rfl, trivial⟩
  | error =>
    exact apart_modifyGet fun s hs _ => ⟨by simp [Store.behind, String.append_assoc],
      ⟨hs.arrays, hs.objects, hs.frames⟩, le_rfl, trivial⟩

/-- Binding a property changes a value behind a store as it does by itself. -/
theorem apart_insertProperty (o : ObjectId) (key : String) {v : Value} (hv : v.Within d) :
    Apart old (.same Unit) d (modifyObject o fun properties => Dict.insert properties key v)
      (modifyObject (old.extent.objects + o) fun properties => Dict.insert properties key (v.behind old.extent)) :=
  apart_modifyObject o (fun _ => Dict.mapValues_insert ..) fun _ hd _ hall e he => by
    rcases Dict.eq_or_mem_of_mem_insert he with rfl | he
    · exact hv.mono hd
    · exact hall e he

theorem apart_insertBinding (f : FrameId) (name : String) {v : Value} (hv : v.Within d) (mutable : Bool) :
    Apart old (.same Unit) d (modifyFrame f fun frame => Dict.insert frame name ⟨v.storedIn f, mutable⟩)
      (modifyFrame (old.extent.frames + f) fun frame =>
        Dict.insert frame name ⟨(v.behind old.extent).storedIn (old.extent.frames + f), mutable⟩) := by
  rw [Value.storedIn_behind]
  exact apart_modifyFrame f (fun _ => Dict.mapValues_insert ..) fun _ hd _ hall e he => by
    rcases Dict.eq_or_mem_of_mem_insert he with rfl | he
    · exact (hv.storedIn f).mono hd
    · exact hall e he

/-! ### Names -/

theorem apart_declare (scope : Scope) (name : String) {v : Value} (hv : v.Within d) (mutable : Bool) :
    Apart old (.same Unit) d (declare scope name v mutable)
      (declare (Scope.behind old.extent scope) name (v.behind old.extent) mutable) := by
  cases scope with
  | nil => exact .pure trivial
  | cons f outer => exact apart_insertBinding f name hv mutable

theorem apart_assign (name : String) {v : Value} (hv : v.Within d) (scope : Scope) :
    Apart old (.same Bool) d (assign name v scope)
      (assign name (v.behind old.extent) (Scope.behind old.extent scope)) := by
  induction scope with
  | nil => exact .pure trivial
  | cons f outer ih =>
    refine apart_bind_get fun s hs hd => ?_
    rw [Store.frame_behind, Dict.get?_mapValues]
    cases Dict.get? (s.frame f) name with
    | none => exact ih.mono hd
    | some b =>
      obtain ⟨held, mutable⟩ := b
      cases mutable with
      | false => exact .throw trivial
      | true =>
        exact (apart_insertBinding f name (hv.mono hd) true).bind fun _ _ _ _ =>
          .pure trivial

theorem apart_readName {context : ObjectId} (hcontext : context < d.objects) (scope : Scope) (name : String) :
    Apart old .value d (readName context scope name)
      (readName (old.extent.objects + context) (Scope.behind old.extent scope) name) := by
  refine apart_bind_get fun s hs hd => ?_
  rw [Store.resolve?_behind]
  cases hv : s.resolve? context scope name with
  | none => exact .throw trivial
  | some v => exact .pure (Store.resolve?_within hs (hcontext.trans_le hd.2.1) hv)

theorem apart_writeName (context : ObjectId) (scope : Scope) (name : String) {v : Value} (hv : v.Within d) :
    Apart old (.same Unit) d (writeName context scope name v)
      (writeName (old.extent.objects + context) (Scope.behind old.extent scope) name (v.behind old.extent)) := by
  refine (apart_assign name hv scope).bind fun d' bound hd _ => ?_
  cases bound with
  | true => exact .pure trivial
  | false =>
    refine apart_bind_get fun s hs hd' => ?_
    rw [Store.object_behind, Dict.contains_mapValues]
    cases Dict.contains (s.object context) name with
    | true => exact apart_insertProperty context name (hv.mono (hd.trans hd'))
    | false => exact .throw trivial

theorem apart_newClosure (context : ObjectId) (scope : Scope) (function : Function) :
    Apart old .value d (newClosure context scope function)
      (newClosure (old.extent.objects + context) (Scope.behind old.extent scope) function) :=
  apart_identity.bind fun _ i _ _ =>
    .pure (a := Value.function ⟨i, function, scope, context, .strong⟩) trivial

theorem apart_newFunction (context : ObjectId) (scope : Scope) (function : Function) :
    Apart old .value d (newFunction context scope function)
      (newFunction (old.extent.objects + context) (Scope.behind old.extent scope) function) := by
  unfold newFunction
  cases function.name with
  | none => exact apart_newClosure context scope function
  | some name =>
    refine (apart_inner scope).bind fun _ own _ _ => (apart_newClosure context own function).bind fun _ v _ hv => ?_
    exact (apart_declare own name hv false).bind fun _ _ hd _ => .pure (hv.mono hd)

theorem apart_hoistDeclaration (context : ObjectId) (scope : Scope) (declaration : Declaration) :
    Apart old (.same Unit) d (hoistDeclaration context scope declaration)
      (hoistDeclaration (old.extent.objects + context) (Scope.behind old.extent scope) declaration) := by
  cases declaration with
  | function name params body =>
    exact (apart_newClosure context scope _).bind fun _ _ _ hv => apart_declare scope name hv true
  | _ => exact .pure trivial

theorem apart_hoist (context : ObjectId) (scope : Scope) (statements : List Stmt) :
    Apart old (.same Unit) d (hoist context scope statements)
      (hoist (old.extent.objects + context) (Scope.behind old.extent scope) statements) := by
  induction statements generalizing d with
  | nil => exact .pure trivial
  | cons stmt rest ih =>
    cases stmt with
    | declare declaration => exact (apart_hoistDeclaration context scope declaration).bind fun _ _ _ _ => ih
    | _ => exact ih

theorem apart_bindParams (scope : Scope) (params : List String) {args : List Value} (hargs : ∀ v ∈ args, v.Within d) :
    Apart old (.same Unit) d (bindParams scope params args)
      (bindParams (Scope.behind old.extent scope) params (args.map (Value.behind old.extent))) := by
  induction params generalizing args d with
  | nil => exact .pure trivial
  | cons p params ih =>
    rw [bindParams, bindParams, argument_behind, ← List.map_tail]
    exact (apart_declare scope p (argument_within hargs 0) true).bind fun _ _ hd _ =>
      ih fun v hv => (hargs v (List.mem_of_mem_tail hv)).mono hd

theorem apart_openScope (c : Closure) {args : List Value} (hargs : ∀ v ∈ args, v.Within d) :
    Apart old .scope d (openScope c args) (openScope (c.behind old.extent) (args.map (Value.behind old.extent))) := by
  refine apart_bind_get fun s hs hd => ?_
  have hscope : (old.behind s).hasScope (c.behind old.extent).scope = s.hasScope c.scope :=
    Store.hasScope_behind old s c.scope
  rw [hscope]
  cases s.hasScope c.scope with
  | false => exact .throw trivial
  | true =>
    refine (apart_inner c.scope).bind fun d' scope hd' _ => ?_
    have hargs' : ∀ v ∈ args, v.Within d' := fun v hv => (hargs v hv).mono (hd.trans hd')
    exact (apart_bindParams scope c.function.params hargs').bind fun _ _ _ _ => .pure trivial

/-! ### Properties -/

theorem apart_misuse (m : Misuse) : Apart old K d (misuse m) (misuse m) := .throw (e := EvalError.misuse m) trivial

theorem apart_arrayProperty (a : ArrayId) (key : String) :
    Apart old .value d (arrayProperty a key) (arrayProperty (old.extent.arrays + a) key) := by
  refine apart_bind_get fun s hs hd => ?_
  rw [Store.array_behind]
  dsimp only
  rw [List.length_map]
  split
  · exact .pure trivial
  · split
    · next i _ =>
      have hitem : ((s.array a).map (Value.behind old.extent)).getD i .undefined
          = ((s.array a).getD i .undefined).behind old.extent := argument_behind ..
      rw [hitem]
      exact .pure (argument_within (hs.array a) i)
    · split
      · next method _ => exact apart_newNative key (.arrayMethod method a)
      · exact .pure trivial

theorem apart_stringProperty (text key : String) :
    Apart old .value d (stringProperty text key) (stringProperty text key) := by
  unfold stringProperty
  split
  · exact .pure trivial
  · split
    · next i _ => cases text.toList[i]? <;> exact .pure trivial
    · split
      · next method _ => exact apart_newNative key (.stringMethod method text)
      · exact .pure trivial

theorem apart_getProperty {v : Value} (hv : v.Within d) (key : String) :
    Apart old .value d (getProperty v key) (getProperty (v.behind old.extent) key) := by
  refine apart_bind_get fun s hs hd => ?_
  cases v with
  | undefined => exact apart_misuse _
  | null => exact apart_misuse _
  | object o =>
    dsimp only [Value.behind]
    rw [Store.object_behind, Dict.get?_mapValues]
    cases hget : Dict.get? (s.object o) key with
    | none => exact .pure trivial
    | some w => exact .pure (hs.object o _ (Dict.mem_of_get? hget))
  | exports identity url entries =>
    dsimp only [Value.behind]
    rw [Value.behindAll_eq, Dict.get?_mapValues]
    cases hget : Dict.get? entries key with
    | none => exact .pure trivial
    | some w =>
      exact .pure ((Value.allWithin_iff.1 hv _ (Dict.mem_of_get? hget)).mono hd)
  | array a => exact apart_arrayProperty a key
  | string text => exact apart_stringProperty text key
  | function c =>
    dsimp only [Value.behind]
    split
    · exact .pure trivial
    · split <;> exact .pure trivial
  | native n =>
    dsimp only [Value.behind]
    split <;> exact .pure trivial
  | bool b => exact .pure trivial
  | number x => exact .pure trivial

theorem setAt_behind (k : Extent) (items : List Value) (i : Nat) (v : Value) :
    (setAt items i v).map (Value.behind k) = setAt (items.map (Value.behind k)) i (v.behind k) := by
  unfold setAt
  rw [List.length_map]
  split
  · exact List.map_set
  · simp [Value.behind]

theorem setAt_within {items : List Value} (hitems : ∀ v ∈ items, v.Within d) (i : Nat) {v : Value}
    (hv : v.Within d) : ∀ w ∈ setAt items i v, w.Within d := by
  intro w hw
  unfold setAt at hw
  split at hw
  · exact (List.mem_or_eq_of_mem_set hw).elim (hitems w) fun heq => heq ▸ hv
  · simp only [List.mem_append, List.mem_replicate, List.mem_singleton] at hw
    rcases hw with (hw | ⟨-, rfl⟩) | rfl
    · exact hitems w hw
    · trivial
    · exact hv

theorem apart_setProperty (target : Value) (key : String) {v : Value} (hv : v.Within d) :
    Apart old (.same Unit) d (setProperty target key v)
      (setProperty (target.behind old.extent) key (v.behind old.extent)) := by
  refine apart_bind_get fun s hs hd => ?_
  have hshown := Store.display_behind old s target
  cases target with
  | object o => exact apart_insertProperty o key (hv.mono hd)
  | array a =>
    dsimp only [Value.behind]
    rw [Store.array_behind, List.length_map]
    split
    · next i _ =>
      split
      · exact apart_misuse _
      · exact apart_modifyArray a (setAt_behind _ · i v) fun _ hd' _ hall => setAt_within hall i (hv.mono (hd.trans hd'))
    · exact apart_misuse _
  | exports identity url entries => exact apart_misuse _
  | _ =>
    dsimp only [Value.behind] at hshown ⊢
    rw [hshown]
    exact apart_misuse _

/-! ### Functions that are no scripts -/

mutual

theorem apart_ofJson : ∀ (j : Json) {d : Extent}, Apart old .value d (ofJson j) (ofJson j)
  | .null, _ => by simp only [ofJson]; exact .pure trivial
  | .bool _, _ => by simp only [ofJson]; exact .pure trivial
  | .integer _, _ => by simp only [ofJson]; exact .pure trivial
  | .float _, _ => by simp only [ofJson]; exact .pure trivial
  | .string _, _ => by simp only [ofJson]; exact .pure trivial
  | .array items, _ => by
    simp only [ofJson]
    exact (apart_ofJsonItems items).bind fun _ _ _ hvs => apart_newArray hvs
  | .object members, _ => by
    simp only [ofJson]
    exact (apart_ofJsonMembers members).bind fun _ ps _ hps =>
      (apart_newObject hps).bind fun _ o _ ho => .pure (a := Value.object o) ho

theorem apart_ofJsonItems : ∀ (js : List Json) {d : Extent},
    Apart old (.list .value) d (ofJsonItems js) (ofJsonItems js)
  | [], _ => by simp only [ofJsonItems]; exact .pure nofun
  | j :: js, _ => by
    simp only [ofJsonItems]
    exact (apart_ofJson j).bind fun _ v _ hv => (apart_ofJsonItems js).bind fun _ vs hd hvs =>
      .pure (a := v :: vs) (List.forall_mem_cons.2 ⟨hv.mono hd, hvs⟩)

theorem apart_ofJsonMembers : ∀ (ms : List (String × Json)) {d : Extent},
    Apart old (.list .entry) d (ofJsonMembers ms) (ofJsonMembers ms)
  | [], _ => by simp only [ofJsonMembers]; exact .pure nofun
  | (key, j) :: ms, _ => by
    simp only [ofJsonMembers]
    exact (apart_ofJson j).bind fun _ v _ hv => (apart_ofJsonMembers ms).bind fun _ es hd hes =>
      .pure (a := (key, v) :: es) (List.forall_mem_cons.2 ⟨hv.mono hd, hes⟩)

end

theorem apart_callArrayMethod (method : ArrayMethod) (a : ArrayId) {args : List Value}
    (hargs : ∀ v ∈ args, v.Within d) :
    Apart old .value d (callArrayMethod method a args)
      (callArrayMethod method (old.extent.arrays + a) (args.map (Value.behind old.extent))) := by
  cases method with
  | push =>
    have hpush : Apart old (.same Unit) d (modifyArray a (· ++ args))
        (modifyArray (old.extent.arrays + a) (· ++ args.map (Value.behind old.extent))) :=
      apart_modifyArray a (fun _ => List.map_append) fun _ hd _ hitems =>
        List.forall_mem_append.2 ⟨hitems, fun v hv => (hargs v hv).mono hd⟩
    refine hpush.bind fun _ _ _ _ => apart_bind_get fun s hs hd => ?_
    rw [Store.array_behind, List.length_map]
    exact .pure trivial
  | join =>
    unfold callArrayMethod
    dsimp only
    refine apart_bind_get fun s hs hd => ?_
    rw [argument_behind, Store.join_behind]
    have hshown := Store.display_behind old s (argument args 0)
    generalize argument args 0 = v at hshown
    cases v with
    | undefined => exact .pure trivial
    | _ =>
      dsimp only [Value.behind] at hshown ⊢
      rw [hshown]
      exact .pure trivial
  | includes =>
    refine apart_bind_get fun s hs hd => ?_
    rw [Store.array_behind, argument_behind, List.any_map]
    simp only [Function.comp_def, Value.strictEq_behind]
    exact .pure trivial

/-- **Functions that are no scripts** do the same behind another store. -/
theorem apart_callNative (operation : Operation) {args : List Value} (hargs : ∀ v ∈ args, v.Within d) :
    Apart old .value d (callNative operation args)
      (callNative (operation.behind old.extent) (args.map (Value.behind old.extent))) := by
  unfold callNative
  refine apart_bind_get fun s hs hd => ?_
  have htexts : (args.map (Value.behind old.extent)).map (old.behind s).display = args.map s.display := by
    rw [List.map_map]
    exact List.map_congr_left fun v _ => Store.display_behind old s v
  have hnumbers : (args.map (Value.behind old.extent)).map Value.toNumber = args.map Value.toNumber := by
    rw [List.map_map]
    exact List.map_congr_left fun v _ => Value.toNumber_behind old.extent v
  cases operation with
  | print stream =>
    dsimp only [Operation.behind]
    rw [htexts]
    exact (apart_print stream _).bind fun _ _ _ _ => .pure trivial
  | stringify =>
    dsimp only [Operation.behind]
    rw [argument_behind, Store.toJson_behind old hs ((argument_within hargs 0).mono hd)]
    split
    · exact .pure trivial
    · exact .pure trivial
    · exact apart_misuse _
  | parseJson =>
    dsimp only [Operation.behind]
    rw [argument_behind, Store.display_behind]
    split
    · exact apart_ofJson _
    · exact .throw trivial
  | arrayMethod method a => exact apart_callArrayMethod method a fun v hv => (hargs v hv).mono hd
  | stringMethod method text =>
    dsimp only [Operation.behind]
    rw [Store.callStringMethod_behind]
    exact .pure (Store.callStringMethod_within s method text args)
  | path f =>
    dsimp only [Operation.behind]
    rw [Store.callPath_behind]
    exact .pure trivial
  | host q =>
    exact .pure_of_eq (answer_within s.host q) (answer_behind old.extent s.host q).symm
  | sha256 =>
    dsimp only [Operation.behind]
    rw [Store.textArgument_behind]
    exact .pure trivial
  | countArguments =>
    dsimp only [Operation.behind]
    rw [List.length_map]
    exact .pure trivial
  | greatest =>
    dsimp only [Operation.behind]
    rw [hnumbers]
    exact .pure trivial
  | least =>
    dsimp only [Operation.behind]
    rw [hnumbers]
    exact .pure trivial
  | toString =>
    dsimp only [Operation.behind]
    rw [argument_behind, Store.display_behind]
    exact .pure trivial
  | math f =>
    dsimp only [Operation.behind]
    rw [argument_behind, Value.toNumber_behind]
    exact .pure trivial
  | toNumber =>
    dsimp only [Operation.behind]
    rw [argument_behind, Value.toNumber_behind]
    exact .pure trivial
  | toBoolean =>
    dsimp only [Operation.behind]
    rw [argument_behind, Value.isTruthy_behind]
    exact .pure trivial

end Run
end Script
end ScriptImport
