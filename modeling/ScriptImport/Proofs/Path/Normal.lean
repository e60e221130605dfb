/-
# Paths that are put together are in normal form

`join` cuts its segments into components, carries out every `..` that has a name in front of it (`cancel`), and writes
down what is left (`written`).  The components that `cancel` has behind it are `Settled` at every step: a `..` among
them has only further ones in front of it, and none behind the root.  So what is written down has no component without
a meaning, and leads up at most at its start (`IsNormal`), whatever the segments are (`join_normal_form`).

Components that are settled already stay as they are (`cancel_eq_self`), and what is written down comes apart into its
components (`components_written`).
-/

import ScriptImport.Proofs.Path

namespace ScriptImport
namespace Path

variable {absolute : Bool} {done parts : List (List Char)} {part path : List Char}

/-! ### Carrying out `..` -/

/-- The component that leads to the directory above. -/
def above : List Char := ['.', '.']

/-- Components, the last one first, among which no `..` is left to carry out. -/
def Settled (absolute : Bool) : List (List Char) → Prop
  | [] => True
  | part :: before => (part = above → absolute = false ∧ ∀ p ∈ before, p = above) ∧ Settled absolute before

theorem Settled.of_append {front : List (List Char)} (h : Settled absolute (front ++ done)) : Settled absolute done := by
  induction front with
  | nil => exact h
  | cons part front ih => exact ih h.2

/-- Every step keeps settled what is done. -/
theorem settled_cancel (h : Settled absolute done) : Settled absolute (cancel absolute done parts).reverse := by
  fun_induction cancel absolute done parts with
  | case1 done => rwa [List.reverse_reverse]
  | case2 parts habsolute ih => exact ih h
  | case3 parts hrelative ih =>
    refine ih ⟨fun _ => ⟨by simpa using hrelative, ?_⟩, trivial⟩
    simp
  | case4 parts before ih =>
    have hbefore := h.1 rfl
    exact ih ⟨fun _ => ⟨hbefore.1, List.forall_mem_cons.2 ⟨rfl, hbefore.2⟩⟩, h⟩
  | case5 parts last before hlast ih => exact ih h.2
  | case6 done part parts hpart ih => exact ih ⟨fun habove => absurd habove hpart, h⟩

/-- What is settled stays as it is. -/
theorem cancel_eq_self (h : Settled absolute (parts.reverse ++ done)) :
    cancel absolute done parts = done.reverse ++ parts := by
  induction parts generalizing done with
  | nil => simp [cancel]
  | cons part parts ih =>
    have hrest : Settled absolute (parts.reverse ++ part :: done) := by simpa using h
    have hpush : cancel absolute done (part :: parts) = cancel absolute (part :: done) parts := by
      by_cases habove : part = above
      · obtain ⟨hrelative, hdone⟩ := hrest.of_append.1 habove
        cases done with
        | nil => simp [cancel, habove, above, hrelative]
        | cons last before =>
          obtain rfl := hdone last (List.mem_cons_self ..)
          simp [cancel, habove, above]
      · exact if_neg habove
    rw [hpush, ih hrest, List.reverse_cons, List.append_assoc]
    rfl

/-- Carrying out goes on from what is done. -/
theorem cancel_append (more : List (List Char)) :
    cancel absolute done (parts ++ more) = cancel absolute (cancel absolute done parts).reverse more := by
  fun_induction cancel absolute done parts with
  | case1 done => rw [List.nil_append, List.reverse_reverse]
  | case2 parts habsolute ih => simpa [cancel, habsolute] using ih
  | case3 parts hrelative ih => simpa [cancel, hrelative] using ih
  | case4 parts before ih => simpa [cancel] using ih
  | case5 parts last before hlast ih => simpa [cancel, hlast] using ih
  | case6 done part parts hpart ih => simpa [cancel, hpart] using ih

/-- Components are taken away, and none are added. -/
theorem cancel_sublist : (cancel absolute done parts).Sublist (done.reverse ++ parts) := by
  fun_induction cancel absolute done parts with
  | case1 done => simp
  | case2 parts habsolute ih => exact ih.trans (by simp)
  | case3 parts hrelative ih => simpa using ih
  | case4 parts before ih => simpa using ih
  | case5 parts last before hlast ih =>
    refine ih.trans ?_
    rw [List.reverse_cons, List.append_assoc]
    exact (List.sublist_append_right [last, above] parts).append_left _
  | case6 done part parts hpart ih => simpa using ih

/-- The components that are settled start with those that lead up. -/
theorem Settled.exists_eq (h : Settled absolute done) :
    ∃ n names, done.reverse = List.replicate n above ++ names ∧ above ∉ names := by
  induction done with
  | nil => exact ⟨0, [], rfl, List.not_mem_nil⟩
  | cons part before ih =>
    by_cases habove : part = above
    · have hbefore : before = List.replicate before.length above := List.eq_replicate_iff.2 ⟨rfl, (h.1 habove).2⟩
      refine ⟨before.length + 1, [], ?_, List.not_mem_nil⟩
      rw [List.reverse_cons, hbefore, List.reverse_replicate, habove, List.length_replicate, List.append_nil,
        List.replicate_succ']
    · obtain ⟨n, names, hreverse, hnames⟩ := ih h.2
      refine ⟨n, names ++ [part], ?_, ?_⟩
      · rw [List.reverse_cons, hreverse, List.append_assoc]
      · simpa [hnames] using Ne.symm habove

/-- Behind the root nothing leads up. -/
theorem Settled.above_not_mem (h : Settled true done) : above ∉ done := by
  induction done with
  | nil => exact List.not_mem_nil
  | cons part before ih =>
    rw [List.mem_cons, not_or]
    exact ⟨fun habove => absurd (h.1 habove.symm).1 (by decide), ih h.2⟩

/-! ### Components and the texts that they are written in -/

/-- Components that mean something. -/
structure IsComponent (part : List Char) : Prop where
  ne_nil : part ≠ []
  ne_here : part ≠ ['.']
  slash : '/' ∉ part

theorem isComponent_of_mem (h : part ∈ components path) : IsComponent part := by
  obtain ⟨hpart, hmeans⟩ := List.mem_filter.1 h
  have hmeans : part ≠ [] ∧ part ≠ ['.'] := by simpa using hmeans
  exact ⟨hmeans.1, hmeans.2, not_mem_of_mem_splitAt hpart⟩

theorem components_eq_self (h : ∀ p ∈ parts, IsComponent p) :
    (parts.filter fun p => p ≠ [] && p ≠ ['.']) = parts :=
  List.filter_eq_self.2 fun p hp => by simp [(h p hp).ne_nil, (h p hp).ne_here]

theorem joinWith_cons_cons (sep : Char) (part next : List Char) (rest : List (List Char)) :
    joinWith sep (part :: next :: rest) = part ++ sep :: joinWith sep (next :: rest) := rfl

/-- Parts that are joined come apart again. -/
theorem splitAt_joinWith (hne : parts ≠ []) (h : ∀ p ∈ parts, '/' ∉ p) : splitAt '/' (joinWith '/' parts) = parts := by
  induction parts with
  | nil => exact absurd rfl hne
  | cons part parts ih =>
    obtain ⟨hpart, hparts⟩ := List.forall_mem_cons.1 h
    cases parts with
    | nil => exact splitAt_of_not_mem hpart
    | cons next rest =>
      rw [joinWith_cons_cons, splitAt_append, splitAt_of_not_mem hpart, ih (List.cons_ne_nil _ _) hparts]
      rfl

theorem components_joinWith (h : ∀ p ∈ parts, IsComponent p) : components (joinWith '/' parts) = parts := by
  cases parts with
  | nil => rfl
  | cons part rest =>
    rw [components, splitAt_joinWith (List.cons_ne_nil _ _) fun p hp => (h p hp).slash, components_eq_self h]

/-- How components are written. -/
def written (absolute : Bool) (parts : List (List Char)) : List Char :=
  if absolute then '/' :: joinWith '/' parts
  else if parts = [] then ['.']
  else joinWith '/' parts

theorem normalize_eq (absolute : Bool) (parts : List (List Char)) :
    normalize absolute parts = written absolute (cancel absolute [] parts) := rfl

/-- What is written comes apart into its components. -/
theorem components_written (h : ∀ p ∈ parts, IsComponent p) : components (written absolute parts) = parts := by
  cases absolute with
  | true => exact components_joinWith h
  | false =>
    rw [written, if_neg Bool.false_ne_true]
    split_ifs with hnil
    · rw [hnil]
      rfl
    · exact components_joinWith h

theorem joinWith_cons (sep c : Char) (cs : List Char) (rest : List (List Char)) :
    joinWith sep ((c :: cs) :: rest) = c :: joinWith sep (cs :: rest) := by
  cases rest <;> rfl

theorem isAbsolute_joinWith (h : ∀ p ∈ parts, IsComponent p) : isAbsolute (joinWith '/' parts) = false := by
  cases parts with
  | nil => rfl
  | cons part rest =>
    have hpart := h part (List.mem_cons_self ..)
    obtain ⟨c, cs, rfl⟩ := List.exists_cons_of_ne_nil hpart.ne_nil
    have hc : c ≠ '/' := fun hc => hpart.slash (hc ▸ List.mem_cons_self ..)
    rw [joinWith_cons]
    simpa [isAbsolute] using hc

theorem isAbsolute_written (h : ∀ p ∈ parts, IsComponent p) : isAbsolute (written absolute parts) = absolute := by
  cases absolute with
  | true => rfl
  | false =>
    rw [written, if_neg Bool.false_ne_true]
    split_ifs
    · rfl
    · exact isAbsolute_joinWith h

/-! ### Normal forms -/

/-- The texts between the slashes of a path, behind the slash that makes it absolute. -/
def pieces (path : List Char) : List (List Char) := splitAt '/' (if isAbsolute path then path.tail else path)

/-- Paths in normal form. -/
structure IsNormal (path : List Char) : Prop where
  ne_nil : path ≠ []
  /-- Nothing is empty but what is behind the slash of the root. -/
  filled : [] ∈ pieces path → path = ['/']
  /-- A point alone is a path of its own. -/
  here : ['.'] ∈ pieces path → path = ['.']
  slash : path.getLast? = some '/' → path = ['/']
  /-- Nothing leads up from the root. -/
  root : isAbsolute path = true → above ∉ pieces path
  /-- What leads up comes first. -/
  leading : ∃ n names, pieces path = List.replicate n above ++ names ∧ above ∉ names

/-- Behind a slash at the end there is nothing. -/
theorem nil_mem_pieces (h : path.getLast? = some '/') : [] ∈ pieces path := by
  have hsplit (front : List Char) : [] ∈ splitAt '/' (front ++ ['/']) := by
    rw [splitAt_append]
    exact List.mem_append_right _ (List.mem_singleton_self _)
  obtain ⟨front, rfl⟩ := List.getLast?_eq_some_iff.1 h
  rw [pieces]
  cases front with
  | nil => exact List.mem_singleton_self _
  | cons c front =>
    split_ifs
    · exact hsplit front
    · exact hsplit (c :: front)

theorem pieces_written (hne : parts ≠ []) (h : ∀ p ∈ parts, IsComponent p) : pieces (written absolute parts) = parts := by
  have hjoin : splitAt '/' (joinWith '/' parts) = parts := splitAt_joinWith hne fun p hp => (h p hp).slash
  rw [pieces, isAbsolute_written h]
  cases absolute with
  | true => exact hjoin
  | false => rwa [written, if_neg Bool.false_ne_true, if_neg hne]

/-- **Components that are settled are written in normal form.** -/
theorem isNormal_written (h : ∀ p ∈ parts, IsComponent p) (hsettled : Settled absolute parts.reverse) :
    IsNormal (written absolute parts) := by
  by_cases hne : parts = []
  · subst hne
    cases absolute with
    | true => exact ⟨by decide, fun _ => rfl, by decide, fun _ => rfl, by decide, 0, [[]], by decide, by decide⟩
    | false => exact ⟨by decide, by decide, fun _ => rfl, by decide, by decide, 0, [['.']], by decide, by decide⟩
  · have hpieces : pieces (written absolute parts) = parts := pieces_written hne h
    have hfilled : [] ∉ pieces (written absolute parts) := fun hnil => (h [] (hpieces ▸ hnil)).ne_nil rfl
    refine ⟨?_, fun hnil => absurd hnil hfilled, fun hhere => ?_, fun hslash => absurd (nil_mem_pieces hslash) hfilled,
      fun hroot habove => ?_, ?_⟩
    · intro hnil
      rw [hnil] at hpieces
      exact hfilled (by rw [hnil]; decide)
    · exact absurd rfl (h ['.'] (hpieces ▸ hhere)).ne_here
    · rw [isAbsolute_written h] at hroot
      subst hroot
      exact hsettled.above_not_mem (List.mem_reverse.2 (hpieces ▸ habove))
    · rw [hpieces]
      simpa using hsettled.exists_eq

/-! ### Segments -/

/-- The components of a segment: slashes and backslashes at its start do not count. -/
def segmentParts (segment : String) : List (List Char) :=
  components (segment.toList.dropWhile fun c => c = '/' || c = '\\')

/-- The first segment that is not empty decides whether a path is absolute. -/
def startsAtRoot (segments : List String) : Bool := (segments.find? (· ≠ "")).any fun s => isAbsolute s.toList

/-- Segments are put together as one list of components. -/
theorem join_eq (segments : List String) :
    join segments = String.ofList (normalize (startsAtRoot segments) (segments.flatMap segmentParts)) := by
  have hparts : segments.flatMap segmentParts = ((segments.map String.toList).filter (· ≠ [])).flatMap
      fun s => components (s.dropWhile fun c => c = '/' || c = '\\') := by
    induction segments with
    | nil => rfl
    | cons s segments ih =>
      rw [List.flatMap_cons, ih, List.map_cons, List.filter_cons]
      split_ifs with hs
      · rfl
      · have hs : s.toList = [] := by simpa using hs
        rw [segmentParts, hs]
        rfl
  have hroot : startsAtRoot segments = ((segments.map String.toList).filter (· ≠ [])).head?.any isAbsolute := by
    simp only [startsAtRoot, List.head?_filter, List.find?_map, Option.any_map, Function.comp_def, ne_eq,
      String.toList_eq_nil_iff]
  rw [join, hparts, hroot]
  cases (segments.map String.toList).filter (· ≠ []) <;> rfl

theorem isComponent_of_mem_segments {segments : List String} (h : part ∈ segments.flatMap segmentParts) :
    IsComponent part := by
  obtain ⟨segment, -, hpart⟩ := List.mem_flatMap.1 h
  exact isComponent_of_mem hpart

theorem isComponent_of_mem_cancel {segments : List String}
    (h : part ∈ cancel absolute [] (segments.flatMap segmentParts)) : IsComponent part :=
  isComponent_of_mem_segments (cancel_sublist.subset h)

theorem isNormal_join (segments : List String) : IsNormal (join segments).toList := by
  rw [join_eq, normalize_eq, String.toList_ofList]
  exact isNormal_written (fun _ => isComponent_of_mem_cancel) (settled_cancel trivial)

theorem isAbsolute_join (segments : List String) :
    isAbsolute (join segments).toList = startsAtRoot segments := by
  rw [join_eq, normalize_eq, String.toList_ofList, isAbsolute_written fun _ => isComponent_of_mem_cancel]

/-- **What is joined is in normal form,** and is absolute if the first segment is that is not empty. -/
theorem join_normal_form (segments : List String) : IsNormal (join segments).toList ∧
    isAbsolute (join segments).toList = (segments.find? (· ≠ "")).any fun s => isAbsolute s.toList :=
  ⟨isNormal_join segments, isAbsolute_join segments⟩

end Path
end ScriptImport
