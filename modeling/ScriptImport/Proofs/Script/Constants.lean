/-
# Constants

What a script declares as a constant cannot be assigned to.  Only declaring the name again, in the same frame, changes
it, and so a constant lasts if its name is final in the scopes of all code (`Store.ConstantsLast`): of the code that
runs, and of the functions in the store, which it may call (`Store.Final`).

A step is said to run in a frame for which some declarations are left, and to make the first ones of these
(`Conducts`).  It leaves the constants of all other frames as they are, makes no constants in its own frame but the
declared ones, and keeps those that it does not declare (`Store.Declares`).  So one step after the other does
(`Conducts.bind`), and a new scope is nobody's business but its own (`Conducts.inner`).
-/

import ScriptImport.Proofs.Script.Assignment
import ScriptImport.Proofs.Syntax.Scopes

namespace ScriptImport
namespace Script

open Syntax

variable {name : String} {f : FrameId} {ds ds' : List Declared} {s s' t : Store}

/-! ### Values that keep names final -/

mutual

/-- The functions in a value. -/
def Value.functions : Value → List Function
  | .function c => [c.function]
  | .exports _ _ entries => Value.functionsOf entries
  | _ => []

/-- The functions in entries. -/
def Value.functionsOf : List (String × Value) → List Function
  | [] => []
  | (_, v) :: rest => v.functions ++ Value.functionsOf rest

end

/-- The name is final in all scopes of the functions in a value. -/
def Value.Final (name : String) (v : Value) : Prop := ∀ function ∈ v.functions, FinalIn name function.scopes

theorem Value.mem_functionsOf {entries : List (String × Value)} {function : Function} :
    function ∈ Value.functionsOf entries ↔ ∃ e ∈ entries, function ∈ e.2.functions := by
  induction entries with
  | nil => exact iff_of_false (List.not_mem_nil) nofun
  | cons e rest ih => rw [Value.functionsOf, List.mem_append, ih]; simp

theorem Value.final_exports {identity : Identity} {url : String} {entries : List (String × Value)} :
    (Value.exports identity url entries).Final name ↔ ∀ e ∈ entries, e.2.Final name := by
  simp only [Value.Final, Value.functions, Value.mem_functionsOf]
  exact ⟨fun h e he function hf => h function ⟨e, he, hf⟩, fun h function ⟨e, he, hf⟩ => h e he function hf⟩

theorem Value.functions_storedIn (f : FrameId) (v : Value) : (v.storedIn f).functions = v.functions := by
  cases v with
  | function c =>
    rw [Value.storedIn]
    split <;> rfl
  | _ => rfl

/-- The functions in a store keep the name final. -/
structure Store.Final (name : String) (s : Store) : Prop where
  arrays : ∀ items ∈ s.arrays, ∀ v ∈ items, v.Final name
  objects : ∀ properties ∈ s.objects, ∀ e ∈ properties, e.2.Final name
  frames : ∀ frame ∈ s.frames, ∀ e ∈ frame, e.2.value.Final name

namespace Store

theorem Final.array (h : s.Final name) (a : ArrayId) : ∀ v ∈ s.array a, v.Final name :=
  getD_of_forall_mem h.arrays (fun _ hv => absurd hv List.not_mem_nil) a

theorem Final.object (h : s.Final name) (o : ObjectId) : ∀ e ∈ s.object o, e.2.Final name :=
  getD_of_forall_mem h.objects (fun _ hv => absurd hv List.not_mem_nil) o

theorem Final.frame (h : s.Final name) (f : FrameId) : ∀ e ∈ s.frame f, e.2.value.Final name :=
  getD_of_forall_mem h.frames (fun _ hv => absurd hv List.not_mem_nil) f

theorem functions_loaded (s : Store) (v : Value) : (s.loaded v).functions ⊆ v.functions := by
  cases v with
  | function c =>
    obtain ⟨identity, function, scope, context, hold⟩ := c
    cases hold with
    | strong => exact List.Subset.refl _
    | weak =>
      rw [loaded]
      dsimp only
      split
      · exact List.Subset.refl _
      · exact List.nil_subset _
  | _ => exact List.Subset.refl _

theorem Final.lookup? (h : s.Final name) {other : String} {scope : Scope} {v : Value}
    (hv : s.lookup? other scope = some v) : v.Final name := by
  induction scope with
  | nil => cases hv
  | cons f outer ih =>
    rw [Store.lookup?] at hv
    split at hv
    next b hb =>
      obtain rfl := Option.some.inj hv
      exact fun function hf => h.frame f _ (Dict.mem_of_get? hb) function (functions_loaded s _ hf)
    next => exact ih hv

theorem Final.resolve? (h : s.Final name) {context : ObjectId} {scope : Scope} {other : String} {v : Value}
    (hv : s.resolve? context scope other = some v) : v.Final name := by
  unfold Store.resolve? at hv
  cases hlookup : s.lookup? other scope with
  | some w =>
    obtain rfl : w = v := by simpa [hlookup] using hv
    exact h.lookup? hlookup
  | none =>
    cases hname : constantName? context other with
    | some w =>
      obtain rfl : w = v := by simpa [hlookup, hname] using hv
      unfold constantName? at hname
      split at hname <;> cases hname <;> exact nofun
    | none =>
      have hget : Dict.get? (s.object context) other = some v := by simpa [hlookup, hname] using hv
      exact h.object context _ (Dict.mem_of_get? hget)

/-! ### Constants of frames -/

/-- The constant that a frame binds a name to, as the frame holds it. -/
def constant? (s : Store) (f : FrameId) (name : String) : Option Value :=
  match Dict.get? (s.frame f) name with
  | some ⟨v, false⟩ => some v
  | _ => none

theorem constant?_eq_some {v : Value} : s.constant? f name = some v ↔ Dict.get? (s.frame f) name = some ⟨v, false⟩ := by
  unfold constant?
  split <;> simp_all

theorem lt_size_of_constant? {v : Value} (h : s.constant? f name = some v) : f < s.frames.size :=
  lt_size_of_get?_frame (by rw [constant?_eq_some.1 h]; nofun)

theorem constant?_congr (h : Dict.get? (t.frame f) name = Dict.get? (s.frame f) name) :
    t.constant? f name = s.constant? f name := by
  rw [constant?, constant?, h]

/-- What is constant stays so. -/
def ConstantsLast (name : String) (s t : Store) : Prop :=
  ∀ f v, s.constant? f name = some v → t.constant? f name = some v

theorem ConstantsLast.refl (s : Store) : s.ConstantsLast name s := fun _ _ h => h

theorem ConstantsLast.trans (h : s.ConstantsLast name s') (h' : s'.ConstantsLast name t) : s.ConstantsLast name t :=
  fun f v hv => h' f v (h f v hv)

/-- What becomes of the constants of a store while declarations are made in one of its frames. -/
structure Declares (name : String) (f : FrameId) (ds : List Declared) (s t : Store) : Prop where
  size_le : s.frames.size ≤ t.frames.size
  /-- There are no other constants than before but the declared ones. -/
  new : ∀ g < s.frames.size, ∀ v, t.constant? g name = some v →
    s.constant? g name = some v ∨ g = f ∧ ⟨name, true⟩ ∈ ds
  /-- The constants are kept that are not declared again. -/
  kept : ∀ g < s.frames.size, ∀ v, s.constant? g name = some v → (g = f → ∀ d ∈ ds, d.name ≠ name) →
    t.constant? g name = some v

theorem declares_of_frames (h : t.frames = s.frames) : s.Declares name f ds t := by
  have hsame (g : FrameId) : t.constant? g name = s.constant? g name := constant?_congr (by rw [frame, frame, h])
  exact ⟨by rw [h], fun g _ v hv => .inl ((hsame g).symm.trans hv), fun g _ v hv _ => (hsame g).trans hv⟩

theorem Declares.append (h : s.Declares name f ds s') (h' : s'.Declares name f ds' t) :
    s.Declares name f (ds ++ ds') t where
  size_le := h.size_le.trans h'.size_le
  new g hg v hv := by
    rcases h'.new g (hg.trans_le h.size_le) v hv with hv | ⟨rfl, hd⟩
    · exact (h.new g hg v hv).imp_right fun hd => ⟨hd.1, List.mem_append_left _ hd.2⟩
    · exact .inr ⟨rfl, List.mem_append_right _ hd⟩
  kept g hg v hv hds :=
    h'.kept g (hg.trans_le h.size_le) v (h.kept g hg v hv fun hf d hd => hds hf d (List.mem_append_left _ hd))
      fun hf d hd => hds hf d (List.mem_append_right _ hd)

theorem Declares.weaken (h : s.Declares name f ds t) (ds' : List Declared) : s.Declares name f (ds ++ ds') t :=
  h.append (declares_of_frames rfl)

theorem declares_bound (hf : f < s.frames.size) (other : String) (v : Value) (mutable : Bool) :
    s.Declares name f [⟨other, !mutable⟩] (s.bound f other v mutable) where
  size_le := by simp [bound]
  new g _ w hw := by
    rw [constant?_eq_some, get?_frame_bound hf] at hw
    split at hw
    next heq =>
      obtain ⟨rfl, rfl⟩ := heq
      obtain rfl : mutable = false := congrArg Binding.mutable (Option.some.inj hw)
      exact .inr ⟨rfl, List.mem_singleton.2 rfl⟩
    next => exact .inl (constant?_eq_some.2 hw)
  kept g _ w hw hds := by
    have hne : ¬ (g = f ∧ name = other) := fun heq => hds heq.1 _ (List.mem_singleton.2 rfl) heq.2.symm
    rw [constant?_eq_some, get?_frame_bound hf, if_neg hne]
    exact constant?_eq_some.1 hw

/-- What may change is no constant, and does not become one. -/
theorem declares_assigned (hf : f < s.frames.size) {other : String} {held : Value}
    (hheld : Dict.get? (s.frame f) other = some ⟨held, true⟩) (v : Value) (g : FrameId) (ds : List Declared) :
    s.Declares name g ds (s.bound f other v true) where
  size_le := by simp [bound]
  new g' _ w hw := by
    rw [constant?_eq_some, get?_frame_bound hf] at hw
    split at hw
    next => cases hw
    next => exact .inl (constant?_eq_some.2 hw)
  kept g' _ w hw _ := by
    have hw := constant?_eq_some.1 hw
    have hne : ¬ (g' = f ∧ name = other) := by
      rintro ⟨rfl, rfl⟩
      cases hheld.symm.trans hw
    rwa [constant?_eq_some, get?_frame_bound hf, if_neg hne]

theorem constant?_withFrame (s : Store) (g : FrameId) : s.withFrame.constant? g name = s.constant? g name :=
  constant?_congr (by rw [frame_withFrame])

/-- What happens in a new frame does not count outside. -/
theorem Declares.outside (h : s.withFrame.Declares name s.frames.size ds t) (f : FrameId) (ds' : List Declared) :
    s.Declares name f ds' t := by
  have hsize : s.withFrame.frames.size = s.frames.size + 1 := by simp [withFrame]
  refine ⟨?_, fun g hg v hv => ?_, fun g hg v hv _ => ?_⟩
  · have hle := h.size_le
    omega
  · rcases h.new g (by omega) v hv with hv | ⟨rfl, -⟩
    · exact .inl ((constant?_withFrame s g).symm.trans hv)
    · exact absurd hg (Nat.lt_irrefl _)
  · exact h.kept g (by omega) v ((constant?_withFrame s g).trans hv) fun heq => absurd (heq ▸ hg) (Nat.lt_irrefl _)

/-- A store in which declarations can be made in a frame: if a constant has been declared there, then it is not among
them. -/
structure Ready (name : String) (f : FrameId) (ds : List Declared) (s : Store) : Prop where
  final : Syntax.Final name ds
  there : ∀ d ∈ ds, f < s.frames.size
  apart : ∀ v, s.constant? f name = some v → ∀ d ∈ ds, d.name ≠ name

theorem ready_nil (f : FrameId) (s : Store) : s.Ready name f [] := ⟨.nil, nofun, fun _ _ => nofun⟩

theorem Ready.left (h : s.Ready name f (ds ++ ds')) : s.Ready name f ds where
  final := h.final.left
  there d hd := h.there d (List.mem_append_left _ hd)
  apart v hv d hd := h.apart v hv d (List.mem_append_left _ hd)

theorem ready_withFrame (s : Store) (hds : Syntax.Final name ds) : s.withFrame.Ready name s.frames.size ds where
  final := hds
  there _ _ := by simp [withFrame]
  apart v hv := by
    rw [constant?_withFrame] at hv
    exact absurd (lt_size_of_constant? hv) (Nat.lt_irrefl _)

/-- When the first ones have been made, the others can be made. -/
theorem Ready.right (h : s.Ready name f (ds ++ ds')) (hdeclares : s.Declares name f ds t) : t.Ready name f ds' where
  final := h.final.right
  there d hd := (h.there d (List.mem_append_right _ hd)).trans_le hdeclares.size_le
  apart v hv d hd := by
    have hf := h.there d (List.mem_append_right _ hd)
    rcases hdeclares.new f hf v hv with hv | ⟨-, hdeclared⟩
    · exact h.apart v hv d (List.mem_append_right _ hd)
    · exact h.final.apart hdeclared d hd

/-- **Final names that are constants stay so.** -/
theorem Declares.constantsLast (h : s.Declares name f ds t) (hready : s.Ready name f ds) : s.ConstantsLast name t :=
  fun g v hv => h.kept g (lt_size_of_constant? hv) v hv fun heq => hready.apart v (heq ▸ hv)

end Store

/-! ### Steps -/

/-- The constants of each of some stores, the last one first, are there in all later ones. -/
def Lasts (name : String) (moments : List Store) : Prop :=
  moments.Pairwise fun later earlier => earlier.ConstantsLast name later

theorem lasts_pair (h : s.ConstantsLast name t) : Lasts name [t, s] :=
  List.pairwise_pair.2 h

/-- One row of stores after the other, which starts with the last store of the first. -/
theorem Lasts.append {before after : List Store} (hafter : Lasts name (after ++ [s']))
    (hbefore : Lasts name (s' :: before)) : Lasts name (after ++ before) := by
  obtain ⟨hafter, -, hjoin⟩ := List.pairwise_append.1 hafter
  obtain ⟨hfirst, hbefore⟩ := List.pairwise_cons.1 hbefore
  refine List.pairwise_append.2 ⟨hafter, hbefore, fun later hlater earlier hearlier => ?_⟩
  exact (hfirst earlier hearlier).trans (hjoin later hlater s' (List.mem_singleton.2 rfl))

/-- States with a store in them, and with those stores that have been recorded before. -/
class HasPast (σ : Type) where
  store : σ → Store
  past : σ → List Store

instance : HasPast Store := ⟨id, fun _ => []⟩

open HasPast

variable {σ ε α β : Type} [HasPast σ] {A : α → Prop} {B : β → Prop}

/-- What a step leads to that makes declarations in a frame. -/
structure Conducted (name : String) (f : FrameId) (ds : List Declared) (A : α → Prop) (r : σ)
    (ended : Except ε α × σ) : Prop where
  declares : (store r).Declares name f ds (store ended.2)
  final : (store ended.2).Final name
  result : ∀ a, ended.1 = .ok a → A a
  /-- The constants of each recorded store are there in all later ones. -/
  past : ∃ moments, past ended.2 = moments ++ past r ∧ Lasts name ((store ended.2 :: moments) ++ [store r])

/-- A step that makes declarations in a frame: what it leads to wherever they can be made. -/
def Conducts (name : String) (f : FrameId) (ds : List Declared) (A : α → Prop) (x : ExceptT ε (StateM σ) α) : Prop :=
  ∀ r : σ, (store r).Final name → (store r).Ready name f ds → Conducted name f ds A r (x.run r)

namespace Conducts

variable {x : ExceptT ε (StateM σ) α}

theorem pure {a : α} (ha : A a) : Conducts name f ds A (Pure.pure a : ExceptT ε (StateM σ) α) := fun _ hr _ =>
  ⟨Store.declares_of_frames rfl, hr, fun _ h => Except.ok.inj h ▸ ha, [], rfl, lasts_pair (.refl _)⟩

theorem throw (e : ε) : Conducts name f ds A (MonadExcept.throw e : ExceptT ε (StateM σ) α) := fun _ hr _ =>
  ⟨Store.declares_of_frames rfl, hr, nofun, [], rfl, lasts_pair (.refl _)⟩

/-- One after the other. -/
theorem bind {g : α → ExceptT ε (StateM σ) β} (h : Conducts name f ds A x)
    (hg : ∀ a, A a → Conducts name f ds' B (g a)) : Conducts name f (ds ++ ds') B (x >>= g) := by
  intro r hr hready
  rw [Run.run_bind]
  have hx := h r hr hready.left
  generalize x.run r = ended at hx ⊢
  obtain ⟨result, r'⟩ := ended
  obtain ⟨hdeclares, hfinal, hresult, moments, hpast, hlast⟩ := hx
  cases result with
  | error e => exact ⟨hdeclares.weaken ds', hfinal, nofun, moments, hpast, hlast⟩
  | ok a =>
    -- the second step makes the rest of the declarations, for which the first one has left the frame ready
    obtain ⟨hdeclares', hfinal', hresult', moments', hpast', hlast'⟩ :=
      hg a (hresult a rfl) r' hfinal (hready.right hdeclares)
    refine ⟨hdeclares.append hdeclares', hfinal', hresult', moments' ++ moments, ?_, ?_⟩
    · rw [hpast', hpast, List.append_assoc]
    · rw [← List.cons_append, List.append_assoc]
      exact hlast'.append hlast

theorem andThen {g : α → ExceptT ε (StateM σ) β} (h : Conducts name f ds A x)
    (hg : ∀ a, A a → Conducts name f [] B (g a)) : Conducts name f ds B (x >>= g) := List.append_nil ds ▸ h.bind hg

end Conducts

/-- What a step leads to that opens a new frame and makes declarations there. -/
structure Opened (name : String) (ds : List Declared) (A : FrameId → α → Prop) (r : σ) (ended : Except ε α × σ) :
    Prop where
  outside : ∀ f, (store r).Declares name f [] (store ended.2)
  final : (store ended.2).Final name
  result : ∀ a, ended.1 = .ok a →
    (store r).withFrame.Declares name (store r).frames.size ds (store ended.2) ∧ A (store r).frames.size a
  past : ∃ moments, past ended.2 = moments ++ past r ∧ Lasts name ((store ended.2 :: moments) ++ [store r])

/-- A step that opens a new frame, and makes declarations there unless it fails. -/
def Opens (name : String) (ds : List Declared) (A : FrameId → α → Prop) (x : ExceptT ε (StateM σ) α) : Prop :=
  ∀ r : σ, (store r).Final name → Opened name ds A r (x.run r)

namespace Opens

variable {x : ExceptT ε (StateM σ) α} {A : FrameId → α → Prop} {B : FrameId → β → Prop}

/-- More declarations in the new frame. -/
theorem bind {g : α → ExceptT ε (StateM σ) β} (h : Opens name ds A x) (hfinal : Syntax.Final name (ds ++ ds'))
    (hg : ∀ f a, A f a → Conducts name f ds' (B f) (g a)) : Opens name (ds ++ ds') B (x >>= g) := by
  intro r hr
  rw [Run.run_bind]
  have hx := h r hr
  generalize x.run r = ended at hx ⊢
  obtain ⟨result, r'⟩ := ended
  obtain ⟨houtside, hfinal', hresult, moments, hpast, hlast⟩ := hx
  cases result with
  | error e => exact ⟨houtside, hfinal', nofun, moments, hpast, hlast⟩
  | ok a =>
    obtain ⟨hdeclares, ha⟩ := hresult a rfl
    have hready := (Store.ready_withFrame (store r) hfinal).right hdeclares
    obtain ⟨hdeclares', hfinal', hresult', moments', hpast', hlast'⟩ := hg _ a ha r' hfinal' hready
    have hall := hdeclares.append hdeclares'
    refine ⟨fun f => hall.outside f [], hfinal', fun b hb => ⟨hall, hresult' b hb⟩, moments' ++ moments, ?_, ?_⟩
    · rw [hpast', hpast, List.append_assoc]
    · rw [← List.cons_append, List.append_assoc]
      exact hlast'.append hlast

/-- **What happens in a new scope** is no declaration elsewhere. -/
theorem conducts {A' : α → Prop} (h : Opens name ds A x) (hA : ∀ f a, A f a → A' a) : Conducts name f [] A' x :=
  fun r hr _ =>
    let ⟨houtside, hfinal, hresult, hpast⟩ := h r hr
    ⟨houtside f, hfinal, fun a ha => hA _ a (hresult a ha).2, hpast⟩

end Opens

namespace Run

variable {context : ObjectId} {outer scope : Scope}

/-! ### New things, and changes of what is there -/

/-- What depends on the store as it is. -/
theorem conducts_bind_get {g : Store → Run α} (h : ∀ s, s.Final name → Conducts name f ds A (g s)) :
    Conducts name f ds A (get >>= g) := fun s hs hready => h s hs s hs hready

/-- A change of the store that makes the declarations. -/
theorem conducts_modifyGet {g : Store → α × Store}
    (h : ∀ s, s.Final name → s.Ready name f ds →
      s.Declares name f ds (g s).2 ∧ (g s).2.Final name ∧ A (g s).1) :
    Conducts name f ds A (MonadStateOf.modifyGet g : Run α) := by
  intro s hs hready
  obtain ⟨hdeclares, hfinal, hresult⟩ := h s hs hready
  exact ⟨hdeclares, hfinal, fun a ha => Except.ok.inj ha ▸ hresult, [], rfl,
    lasts_pair (hdeclares.constantsLast hready)⟩

/-- A change of the store that leaves the frames as they are. -/
theorem conducts_change {g : Store → α × Store}
    (h : ∀ s, s.Final name → (g s).2.frames = s.frames ∧ (g s).2.Final name ∧ A (g s).1) :
    Conducts name f ds A (MonadStateOf.modifyGet g : Run α) :=
  conducts_modifyGet fun s hs _ =>
    let ⟨hframes, hfinal, hresult⟩ := h s hs
    ⟨Store.declares_of_frames hframes, hfinal, hresult⟩

theorem conducts_identity : Conducts name f [] (fun _ => True) identity :=
  conducts_change fun _ hs => ⟨rfl, ⟨hs.arrays, hs.objects, hs.frames⟩, trivial⟩

theorem conducts_newNative (shown : String) (operation : Operation) :
    Conducts name f [] (Value.Final name) (newNative shown operation) :=
  conducts_identity.andThen fun i _ => .pure (a := Value.native ⟨i, shown, operation⟩) nofun

theorem conducts_newArray {items : List Value} (hitems : ∀ v ∈ items, v.Final name) :
    Conducts name f [] (Value.Final name) (newArray items) :=
  conducts_change fun _ hs => ⟨rfl, ⟨forall_mem_push hs.arrays hitems, hs.objects, hs.frames⟩, nofun⟩

theorem conducts_newObject {properties : Dict Value} (hproperties : ∀ e ∈ properties, e.2.Final name) :
    Conducts name f [] (fun _ => True) (newObject properties) :=
  conducts_change fun _ hs => ⟨rfl, ⟨hs.arrays, forall_mem_push hs.objects hproperties, hs.frames⟩, trivial⟩

theorem conducts_modifyArray (a : ArrayId) {change : List Value → List Value}
    (h : ∀ items, (∀ v ∈ items, v.Final name) → ∀ v ∈ change items, v.Final name) :
    Conducts name f [] (fun _ => True) (modifyArray a change) :=
  conducts_change fun _ hs => ⟨rfl, ⟨forall_mem_modify hs.arrays h, hs.objects, hs.frames⟩, trivial⟩

theorem conducts_insertProperty (o : ObjectId) (key : String) {v : Value} (hv : v.Final name) :
    Conducts name f [] (fun _ => True) (modifyObject o fun properties => Dict.insert properties key v) :=
  conducts_change fun _ hs => ⟨rfl, ⟨hs.arrays, forall_mem_modify hs.objects fun properties hall e he => by
    rcases Dict.eq_or_mem_of_mem_insert he with rfl | he
    · exact hv
    · exact hall e he, hs.frames⟩, trivial⟩

theorem conducts_print (stream : Stream) (line : String) : Conducts name f [] (fun _ => True) (print stream line) := by
  cases stream <;> exact conducts_change fun _ hs => ⟨rfl, ⟨hs.arrays, hs.objects, hs.frames⟩, trivial⟩

theorem conducts_misuse (m : Misuse) : Conducts name f ds A (misuse m) := .throw _

/-! ### Names -/

theorem final_bound (hs : s.Final name) {v : Value} (hv : v.Final name) (g : FrameId) (other : String)
    (mutable : Bool) : (s.bound g other v mutable).Final name := by
  have hinsert (frame : Frame) (hframe : ∀ e ∈ frame, e.2.value.Final name) :
      ∀ e ∈ Dict.insert frame other ⟨v.storedIn g, mutable⟩, e.2.value.Final name := by
    intro e he
    rcases Dict.eq_or_mem_of_mem_insert he with rfl | he
    · exact fun function hf => hv function (Value.functions_storedIn g v ▸ hf)
    · exact hframe e he
  exact ⟨hs.arrays, hs.objects, forall_mem_modify hs.frames hinsert⟩

/-- **Declaring a name** in the frame. -/
theorem conducts_declare (other : String) {v : Value} (hv : v.Final name) (mutable : Bool) :
    Conducts name f [⟨other, !mutable⟩] (fun _ => True) (declare (f :: outer) other v mutable) :=
  conducts_modifyGet fun _ hs hready =>
    ⟨Store.declares_bound (hready.there _ (List.mem_singleton.2 rfl)) other v mutable,
      final_bound hs hv f other mutable, trivial⟩

/-- **Assigning to a name** does not change a constant. -/
theorem conducts_assign (other : String) {v : Value} (hv : v.Final name) (scope : Scope) :
    Conducts name f [] (fun _ => True) (assign other v scope) := by
  induction scope with
  | nil => exact .pure trivial
  | cons g outer ih =>
    intro s hs hready
    rw [assign, run_get_bind]
    cases hb : Dict.get? (s.frame g) other with
    | none => exact ih s hs hready
    | some b =>
      obtain ⟨held, mutable⟩ := b
      cases mutable with
      | false => exact Conducts.throw _ s hs hready
      | true =>
        have hg : g < s.frames.size := Store.lt_size_of_get?_frame (by rw [hb]; exact Option.some_ne_none _)
        have hdeclares : s.Declares name f [] (s.bound g other v true) := Store.declares_assigned hg hb v f []
        exact ⟨hdeclares, final_bound hs hv g other true, fun _ _ => trivial, [], rfl,
          lasts_pair (hdeclares.constantsLast hready)⟩

theorem conducts_readName (context : ObjectId) (scope : Scope) (other : String) :
    Conducts name f [] (Value.Final name) (readName context scope other) :=
  conducts_bind_get fun s hs => by
    cases hv : s.resolve? context scope other with
    | none => exact .throw _
    | some v => exact .pure (hs.resolve? hv)

theorem conducts_writeName (context : ObjectId) (scope : Scope) (other : String) {v : Value} (hv : v.Final name) :
    Conducts name f [] (fun _ => True) (writeName context scope other v) := by
  refine (conducts_assign other hv scope).andThen fun bound _ => ?_
  cases bound with
  | true => exact .pure trivial
  | false =>
    refine conducts_bind_get fun s _ => ?_
    cases Dict.contains (s.object context) other with
    | true => exact conducts_insertProperty context other hv
    | false => exact .throw _

theorem conducts_newClosure (context : ObjectId) (scope : Scope) (function : Function)
    (hfunction : FinalIn name function.scopes) :
    Conducts name f [] (Value.Final name) (newClosure context scope function) :=
  conducts_identity.andThen fun i _ => .pure (a := Value.function ⟨i, function, scope, context, .strong⟩) fun _ h =>
    List.mem_singleton.1 h ▸ hfunction

/-! ### Scopes -/

theorem opens_inner (scope : Scope) : Opens name [] (fun f block => block = f :: scope) (inner scope) := by
  intro s hs
  have hdeclares : s.withFrame.Declares name s.frames.size [] s.withFrame := Store.declares_of_frames rfl
  have houtside (f : FrameId) : s.Declares name f [] s.withFrame := hdeclares.outside f []
  exact ⟨houtside, ⟨hs.arrays, hs.objects, forall_mem_push hs.frames fun _ h => absurd h List.not_mem_nil⟩,
    fun _ h => ⟨hdeclares, (Except.ok.inj h).symm⟩, [], rfl,
    lasts_pair ((houtside 0).constantsLast (Store.ready_nil 0 s))⟩

theorem conducts_newFunction (context : ObjectId) (scope : Scope) (function : Function)
    (hfunction : FinalIn name function.scopes) :
    Conducts name f [] (Value.Final name) (newFunction context scope function) := by
  unfold newFunction
  cases function.name with
  | none => exact conducts_newClosure context scope function hfunction
  | some own =>
    have hown : Syntax.Final name [⟨own, true⟩] := List.pairwise_singleton _ _
    refine Opens.conducts (A := fun _ => Value.Final name)
      ((opens_inner scope).bind hown fun g block hblock => ?_) fun _ _ hv => hv
    subst hblock
    exact (conducts_newClosure context _ function hfunction).bind fun v hv =>
      (conducts_declare own hv false).andThen fun _ _ => .pure hv

theorem conducts_hoistDeclaration (context : ObjectId) (outer : Scope) {declaration : Declaration}
    (hd : FinalIn name declaration.scopes) :
    Conducts name f declaration.hoists (fun _ => True) (hoistDeclaration context (f :: outer) declaration) := by
  cases declaration with
  | function own params body =>
    exact (conducts_newClosure context _ _ hd).bind fun v hv => conducts_declare own hv true
  | _ => exact .pure trivial

/-- **Hoisting** declares the functions among the statements. -/
theorem conducts_hoist (context : ObjectId) (outer : Scope) {statements : List Stmt}
    (h : FinalIn name (scopesOfBlock statements)) :
    Conducts name f (statements.flatMap Stmt.hoists) (fun _ => True) (hoist context (f :: outer) statements) := by
  induction statements with
  | nil => exact .pure trivial
  | cons stmt rest ih =>
    obtain ⟨hstmt, hrest⟩ := FinalIn.append h
    cases stmt with
    | declare declaration => exact (conducts_hoistDeclaration context outer hstmt).bind fun _ _ => ih hrest
    | _ => exact ih hrest

theorem final_argument {args : List Value} (hargs : ∀ v ∈ args, v.Final name) (i : Nat) :
    (argument args i).Final name := by
  rw [argument, List.getD_eq_getElem?_getD]
  cases hi : args[i]? with
  | none => exact fun _ h => absurd h List.not_mem_nil
  | some v => exact hargs v (List.mem_of_getElem? hi)

theorem conducts_bindParams (outer : Scope) (params : List String) {args : List Value}
    (hargs : ∀ v ∈ args, v.Final name) :
    Conducts name f (paramDeclares params) (fun _ => True) (bindParams (f :: outer) params args) := by
  induction params generalizing args with
  | nil => exact .pure trivial
  | cons p params ih =>
    exact (conducts_declare p (final_argument hargs 0) true).bind fun _ _ =>
      ih fun v hv => hargs v (List.mem_of_mem_tail hv)

/-- **A call** declares the parameters of the function in a new scope. -/
theorem opens_openScope {c : Closure} (hparams : Syntax.Final name (paramDeclares c.function.params))
    {args : List Value} (hargs : ∀ v ∈ args, v.Final name) :
    Opens name (paramDeclares c.function.params) (fun f scope => scope = f :: c.scope) (openScope c args) := by
  have hopens : Opens name (paramDeclares c.function.params) (fun f scope => scope = f :: c.scope) (do
      let scope ← inner c.scope
      bindParams scope c.function.params args
      return scope) := (opens_inner c.scope).bind hparams fun g scope hscope => by
    subst hscope
    exact (conducts_bindParams c.scope _ hargs).andThen fun _ _ => .pure rfl
  intro s hs
  rw [openScope, run_get_bind]
  cases s.hasScope c.scope with
  | true => exact hopens s hs
  | false =>
    exact ⟨fun _ => Store.declares_of_frames rfl, hs, nofun, [], rfl, lasts_pair (.refl s)⟩

/-! ### Properties -/

theorem conducts_arrayProperty (a : ArrayId) (key : String) :
    Conducts name f [] (Value.Final name) (arrayProperty a key) := by
  refine conducts_bind_get fun s hs => ?_
  dsimp only
  split
  · exact .pure nofun
  · split
    next i _ => exact .pure (final_argument (hs.array a) i)
    next =>
      split
      next method _ => exact conducts_newNative key (.arrayMethod method a)
      next => exact .pure nofun

theorem conducts_stringProperty (text key : String) :
    Conducts name f [] (Value.Final name) (stringProperty text key) := by
  unfold stringProperty
  split
  · exact .pure nofun
  · split
    next i _ => cases text.toList[i]? <;> exact .pure nofun
    next =>
      split
      next method _ => exact conducts_newNative key (.stringMethod method text)
      next => exact .pure nofun

theorem conducts_getProperty {v : Value} (hv : v.Final name) (key : String) :
    Conducts name f [] (Value.Final name) (getProperty v key) := by
  refine conducts_bind_get fun s hs => ?_
  cases v with
  | undefined => exact conducts_misuse _
  | null => exact conducts_misuse _
  | object o =>
    dsimp only
    cases hget : Dict.get? (s.object o) key with
    | none => exact .pure nofun
    | some w => exact .pure (hs.object o _ (Dict.mem_of_get? hget))
  | exports identity url entries =>
    dsimp only
    cases hget : Dict.get? entries key with
    | none => exact .pure nofun
    | some w => exact .pure (Value.final_exports.1 hv _ (Dict.mem_of_get? hget))
  | array a => exact conducts_arrayProperty a key
  | string text => exact conducts_stringProperty text key
  | function c =>
    dsimp only
    split
    · exact .pure nofun
    · split <;> exact .pure nofun
  | native n =>
    dsimp only
    split <;> exact .pure nofun
  | bool b => exact .pure nofun
  | number x => exact .pure nofun

theorem final_setAt {items : List Value} (hitems : ∀ v ∈ items, v.Final name) (i : Nat) {v : Value}
    (hv : v.Final name) : ∀ w ∈ setAt items i v, w.Final name := by
  intro w hw
  unfold setAt at hw
  split at hw
  · exact (List.mem_or_eq_of_mem_set hw).elim (hitems w) fun heq => heq ▸ hv
  · simp only [List.mem_append, List.mem_replicate, List.mem_singleton] at hw
    rcases hw with (hw | ⟨-, rfl⟩) | rfl
    · exact hitems w hw
    · exact nofun
    · exact hv

theorem conducts_setProperty (target : Value) (key : String) {v : Value} (hv : v.Final name) :
    Conducts name f [] (fun _ => True) (setProperty target key v) := by
  refine conducts_bind_get fun s _ => ?_
  cases target with
  | object o => exact conducts_insertProperty o key hv
  | array a =>
    dsimp only
    split
    · split
      · exact conducts_misuse _
      · exact conducts_modifyArray a fun _ hitems => final_setAt hitems _ hv
    · exact conducts_misuse _
  | _ => exact conducts_misuse _

/-! ### Functions that are no scripts -/

mutual

theorem conducts_ofJson : ∀ j : Json, Conducts name f [] (Value.Final name) (ofJson j)
  | .null => by simp only [ofJson]; exact .pure nofun
  | .bool _ => by simp only [ofJson]; exact .pure nofun
  | .integer _ => by simp only [ofJson]; exact .pure nofun
  | .float _ => by simp only [ofJson]; exact .pure nofun
  | .string _ => by simp only [ofJson]; exact .pure nofun
  | .array items => by
    simp only [ofJson]
    exact (conducts_ofJsonItems items).bind fun _ hvs => conducts_newArray hvs
  | .object members => by
    simp only [ofJson]
    exact (conducts_ofJsonMembers members).bind fun _ hps =>
      (conducts_newObject hps).bind fun o _ => .pure (a := Value.object o) nofun

theorem conducts_ofJsonItems : ∀ js : List Json,
    Conducts name f [] (fun vs => ∀ v ∈ vs, v.Final name) (ofJsonItems js)
  | [] => by simp only [ofJsonItems]; exact .pure nofun
  | j :: js => by
    simp only [ofJsonItems]
    exact (conducts_ofJson j).bind fun v hv => (conducts_ofJsonItems js).bind fun vs hvs =>
      .pure (List.forall_mem_cons.2 ⟨hv, hvs⟩)

theorem conducts_ofJsonMembers : ∀ ms : List (String × Json),
    Conducts name f [] (fun es => ∀ e ∈ es, e.2.Final name) (ofJsonMembers ms)
  | [] => by simp only [ofJsonMembers]; exact .pure nofun
  | (key, j) :: ms => by
    simp only [ofJsonMembers]
    exact (conducts_ofJson j).bind fun v hv => (conducts_ofJsonMembers ms).bind fun es hes =>
      .pure (List.forall_mem_cons.2 ⟨hv, hes⟩)

end

theorem conducts_callArrayMethod (method : ArrayMethod) (a : ArrayId) {args : List Value}
    (hargs : ∀ v ∈ args, v.Final name) : Conducts name f [] (Value.Final name) (callArrayMethod method a args) := by
  cases method with
  | push =>
    have hpush : Conducts name f [] (fun _ => True) (modifyArray a (· ++ args)) :=
      conducts_modifyArray a fun _ hitems => List.forall_mem_append.2 ⟨hitems, hargs⟩
    exact hpush.bind fun _ _ => conducts_bind_get fun s _ => .pure nofun
  | join => exact conducts_bind_get fun s _ => .pure nofun
  | includes => exact conducts_bind_get fun s _ => .pure nofun

theorem final_callStringMethod (s : Store) (method : StringMethod) (text : String) (args : List Value) :
    (s.callStringMethod method text args).Final name := by
  cases method <;> exact nofun

theorem final_answer (host : Host) (q : HostQuestion) : (q.answer host).Final name := by
  obtain ⟨home, temporary, directory, environment, processId, platform, architecture⟩ := host
  cases q <;> cases home <;> cases directory <;> exact nofun

/-- **Functions that are no scripts** declare nothing. -/
theorem conducts_callNative (operation : Operation) {args : List Value} (hargs : ∀ v ∈ args, v.Final name) :
    Conducts name f [] (Value.Final name) (callNative operation args) := by
  refine conducts_bind_get fun s _ => ?_
  cases operation with
  | print stream => exact (conducts_print stream _).bind fun _ _ => .pure nofun
  | stringify =>
    dsimp only
    split
    next => exact .pure nofun
    next => exact .pure nofun
    next => exact conducts_misuse _
  | parseJson =>
    dsimp only
    split
    next => exact conducts_ofJson _
    next => exact .throw _
  | arrayMethod method a => exact conducts_callArrayMethod method a hargs
  | stringMethod method text => exact .pure (final_callStringMethod s method text args)
  | host q => exact .pure (final_answer s.host q)
  | _ => exact .pure nofun

end Run
end Script
end ScriptImport
