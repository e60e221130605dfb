/-
# Paths that are taken apart

`directory`, `base` and `extension` take a path apart from its end (`cutEnd`).  What they pass over at the end means
nothing, so the components of a path are those of its directory and then its name (`EndsWith`), and `join` puts the
two together again.  Two kinds of paths are different.

* A path that ends with `..` leads up and has no name.  It takes the directory and `..` to come to the same place.
* A name can start with a backslash, which `join` takes away from the start of a segment, but not from a component
  further on.  So nothing is said of such a name, unless there is nothing in front of it but slashes and backslashes,
  as in `/\b`.

A name comes apart into what is in front of its extension and the extension without exceptions, as an extension is
never the whole name (`exists_eq_append_extensionOf`).  All this is put together in `taken_apart`.
-/

import ScriptImport.Proofs.Path.Stepwise

namespace ScriptImport
namespace Path

variable {path front name : List Char} {anchor budget : Nat}

/-! ### Names and their extensions -/

/-- An extension ends a name and is not all of it. -/
theorem exists_eq_append_extensionOf (name : List Char) :
    extensionOf name = [] ∨ ∃ stem, stem ≠ [] ∧ name = stem ++ extensionOf name := by
  have hsplit : name.reverse.takeWhile (· ≠ '.') ++ name.reverse.dropWhile (· ≠ '.') = name.reverse :=
    List.takeWhile_append_dropWhile
  rw [extensionOf]
  split_ifs with hlt
  · refine .inr ?_
    cases hdrop : name.reverse.dropWhile (· ≠ '.') with
    | nil =>
      rw [hdrop, List.append_nil] at hsplit
      rw [hsplit] at hlt
      omega
    | cons c before =>
      have hc : c = '.' := by
        have hhead := List.head?_dropWhile_not (· ≠ '.') name.reverse
        rw [hdrop] at hhead
        simpa using hhead
      rw [hdrop, hc] at hsplit
      refine ⟨before.reverse, fun hnil => ?_, ?_⟩
      · have hlength := congrArg List.length hsplit
        rw [List.reverse_eq_nil_iff.1 hnil, List.length_append, List.length_singleton] at hlength
        omega
      · have hname := congrArg List.reverse hsplit
        simpa using hname.symm
  · exact .inl rfl

/-- A name without its extension, and the extension. -/
theorem stripEnding_append_extensionOf (name : List Char) :
    stripEnding name (extensionOf name) ++ extensionOf name = name := by
  rcases exists_eq_append_extensionOf name with hnone | ⟨stem, hstem, hname⟩
  · rw [hnone, stripEnding, if_neg fun h => h.1 rfl, List.append_nil]
  · by_cases hext : extensionOf name = []
    · rw [hext, stripEnding, if_neg fun h => h.1 rfl, List.append_nil]
    · have hlength : name.length = stem.length + (extensionOf name).length := by
        rw [← List.length_append, ← hname]
      have hpos := List.length_pos_of_ne_nil hstem
      have hsuffix : (extensionOf name).isSuffixOf name := by
        rw [List.isSuffixOf_iff_suffix]
        exact ⟨stem, hname.symm⟩
      have htake : name.take (name.length - (extensionOf name).length) = stem := by
        rw [show name.length - (extensionOf name).length = stem.length by omega]
        conv_lhs => rw [hname]
        exact List.take_left
      rw [stripEnding, if_pos ⟨hext, hsuffix, by omega⟩, htake, ← hname]

/-! ### Cutting at the last slash -/

theorem append_of_cutLast (h : cutLast path = (front, name)) : front ++ name = path := by
  obtain ⟨rfl, rfl⟩ := Prod.mk.inj h
  rw [← List.reverse_append, List.takeWhile_append_dropWhile, List.reverse_reverse]

theorem slash_not_mem_of_cutLast (h : cutLast path = (front, name)) : '/' ∉ name := by
  obtain ⟨-, rfl⟩ := Prod.mk.inj h
  intro hmem
  have hslash := List.all_takeWhile (p := (· ≠ '/')) (l := path.reverse)
  simpa using List.all_eq_true.1 hslash _ (List.mem_reverse.1 hmem)

/-- What is in front of the last part is nothing, or ends with a slash. -/
theorem front_of_cutLast (h : cutLast path = (front, name)) : front = [] ∨ ∃ before, front = before ++ ['/'] := by
  obtain ⟨rfl, -⟩ := Prod.mk.inj h
  cases hdrop : path.reverse.dropWhile (· ≠ '/') with
  | nil => exact .inl rfl
  | cons c before =>
    have hc : c = '/' := by
      have hhead := List.head?_dropWhile_not (· ≠ '/') path.reverse
      rw [hdrop] at hhead
      simpa using hhead
    exact .inr ⟨before.reverse, by rw [hc, List.reverse_cons]⟩

/-! ### What means nothing at an end -/

/-- The components of a path behind the slashes and backslashes at its start. -/
def innerParts (path : List Char) : List (List Char) :=
  components (path.dropWhile fun c => c = '/' || c = '\\')

theorem segmentParts_eq (segment : String) : segmentParts segment = innerParts segment.toList := rfl

theorem components_append_slash (xs ys : List Char) :
    components (xs ++ '/' :: ys) = components xs ++ components ys := by
  rw [components, splitAt_append, List.filter_append]
  rfl

/-- Behind a slash the components go on, if something is in front of it that counts. -/
theorem innerParts_append_slash (xs ys : List Char) : innerParts (xs ++ '/' :: ys) =
    innerParts xs ++ if xs.all fun c => c = '/' || c = '\\' then innerParts ys else components ys := by
  induction xs with
  | nil => rfl
  | cons c xs ih =>
    by_cases hc : (c = '/' || c = '\\') = true
    · have hdrop (zs : List Char) : innerParts (c :: zs) = innerParts zs :=
        congrArg components (List.dropWhile_cons_of_pos hc)
      rw [List.cons_append, hdrop, hdrop, List.all_cons, hc, Bool.true_and, ih]
    · have hdrop (zs : List Char) : innerParts (c :: zs) = components (c :: zs) :=
        congrArg components (List.dropWhile_cons_of_neg hc)
      rw [List.cons_append, hdrop, hdrop, List.all_cons, Bool.eq_false_iff.2 hc, Bool.false_and,
        if_neg Bool.false_ne_true, ← List.cons_append, components_append_slash]

theorem innerParts_slash (xs : List Char) : innerParts (xs ++ ['/']) = innerParts xs := by
  rw [innerParts_append_slash, show innerParts [] = components [] from rfl, ite_self]
  exact List.append_nil _

theorem innerParts_here (xs : List Char) : innerParts (xs ++ ['/', '.']) = innerParts xs := by
  rw [innerParts_append_slash, show innerParts ['.'] = components ['.'] from rfl, ite_self]
  exact List.append_nil _

theorem components_slash (xs : List Char) : components (xs ++ ['/']) = components xs := by
  rw [components_append_slash]
  exact List.append_nil _

theorem components_here (xs : List Char) : components (xs ++ ['/', '.']) = components xs := by
  rw [components_append_slash]
  exact List.append_nil _

/-- Trimming keeps what neither a slash nor `/.` at the end changes. -/
theorem trimEnd_keeps {β : Type} {f : List Char → β} (hslash : ∀ xs, f (xs ++ ['/']) = f xs)
    (hhere : ∀ xs, f (xs ++ ['/', '.']) = f xs) : f (trimEnd anchor budget path) = f path := by
  fun_induction trimEnd anchor budget path with
  | case1 path => rfl
  | case2 budget path hshort => rfl
  | case3 budget path hlong front hcut ih =>
    obtain rfl : front = path := by simpa using append_of_cutLast hcut
    obtain rfl | ⟨before, rfl⟩ := front_of_cutLast hcut
    · exact ih
    · rw [ih, List.dropLast_concat, hslash]
  | case4 budget path hlong front last hcut hne hlast ih =>
    obtain ⟨before, rfl⟩ := (front_of_cutLast hcut).resolve_left hlast.2.2
    rw [ih, ← append_of_cutLast hcut, hlast.1, hslash, List.append_assoc]
    exact (hhere before).symm
  | case5 => rfl

theorem trimEnd_prefix : trimEnd anchor budget path <+: path := by
  fun_induction trimEnd anchor budget path with
  | case1 path => exact List.prefix_rfl
  | case2 budget path hshort => exact List.prefix_rfl
  | case3 budget path hlong front hcut ih =>
    exact (ih.trans (List.dropLast_prefix front)).trans ⟨[], append_of_cutLast hcut⟩
  | case4 budget path hlong front last hcut hne hlast ih => exact ih.trans ⟨last, append_of_cutLast hcut⟩
  | case5 => exact List.prefix_rfl

theorem length_dropLast_of_cutLast (h : cutLast path = (front, [])) : front.dropLast.length = path.length - 1 := by
  rw [List.length_dropLast, ← append_of_cutLast h, List.append_nil]

/-- The anchor stays. -/
theorem anchor_le_trimEnd (h : anchor ≤ path.length) : anchor ≤ (trimEnd anchor budget path).length := by
  fun_induction trimEnd anchor budget path with
  | case1 path => exact h
  | case2 budget path hshort => exact h
  | case3 budget path hlong front hcut ih =>
    have hlength := length_dropLast_of_cutLast hcut
    exact ih (by omega)
  | case4 budget path hlong front last hcut hne hlast ih => exact ih hlast.2.1
  | case5 => exact h

/-- At the end of the path nothing is left behind the anchor that means nothing. -/
def IsTrimmed (anchor : Nat) (path : List Char) : Prop :=
  ∀ front last, cutLast path = (front, last) → anchor < path.length →
    last ≠ [] ∧ (last = ['.'] → front.length < anchor ∨ front = [])

theorem isTrimmed_trimEnd (h : path.length < budget) : IsTrimmed anchor (trimEnd anchor budget path) := by
  fun_induction trimEnd anchor budget path with
  | case1 path => omega
  | case2 budget path hshort => exact fun _ _ _ hlong => absurd hlong (Nat.not_lt.2 hshort)
  | case3 budget path hlong front hcut ih =>
    have hlength := length_dropLast_of_cutLast hcut
    exact ih (by omega)
  | case4 budget path hlong front last hcut hne hlast ih =>
    have hlength := congrArg List.length (append_of_cutLast hcut)
    rw [hlast.1, List.length_append, List.length_singleton] at hlength
    exact ih (by omega)
  | case5 budget path hlong front last hcut hne hlast =>
    intro front' last' hcut' _
    obtain ⟨rfl, rfl⟩ := Prod.mk.inj (hcut.symm.trans hcut')
    refine ⟨hne, fun hhere => ?_⟩
    by_contra hnot
    rw [not_or] at hnot
    exact hlast ⟨hhere, Nat.not_lt.1 hnot.1, hnot.2⟩

/-! ### The end of a path -/

theorem anchorLength_le_one (path : List Char) : anchorLength path ≤ 1 := by
  unfold anchorLength
  split <;> decide

theorem anchorLength_of_isAbsolute (h : isAbsolute path = true) : anchorLength path = 1 := by
  cases path with
  | nil => cases h
  | cons c path =>
    obtain rfl : c = '/' := by simpa [isAbsolute] using h
    rfl

theorem isAbsolute_of_prefix {short : List Char} (h : short <+: path) (hne : short ≠ []) :
    isAbsolute short = isAbsolute path := by
  obtain ⟨rest, rfl⟩ := h
  cases short with
  | nil => exact absurd rfl hne
  | cons c short => rfl

/-- A path is the component `last` behind the path `front`. -/
structure EndsWith (path front last : List Char) : Prop where
  component : IsComponent last
  components : components path = components front ++ [last]
  /-- Joining starts behind the slashes and backslashes of `last`, if there are any. -/
  inner : last.head? ≠ some '\\' ∨ innerParts path = innerParts last →
    innerParts path = innerParts front ++ innerParts last
  absolute : isAbsolute front = isAbsolute path

/-- What the end of a path can be. -/
inductive Cut (path : List Char) : End × List Char → Prop
  | nothing {e : End} {front : List Char} (he : e = .root ∨ e = .nothing) (hparts : components path = [])
    (hinner : innerParts path = []) : Cut path (e, front)
  | here (hparts : components path = []) (hinner : innerParts path = []) (hrelative : isAbsolute path = false) :
    Cut path (.here, [])
  | above {front : List Char} (h : EndsWith path front above) : Cut path (.above, front)
  | name {front last : List Char} (h : EndsWith path front last) (hne : last ≠ above) : Cut path (.name last, front)

theorem components_of_isComponent {last : List Char} (h : IsComponent last) : components last = [last] := by
  rw [components, splitAt_of_not_mem h.slash, components_eq_self]
  exact fun p hp => List.mem_singleton.1 hp ▸ h

/-- What starts with no backslash, and is a component, is not cut at its start. -/
theorem innerParts_of_isComponent {last : List Char} (h : IsComponent last) (hback : last.head? ≠ some '\\') :
    innerParts last = [last] := by
  obtain ⟨c, cs, rfl⟩ := List.exists_cons_of_ne_nil h.ne_nil
  have hslash : c ≠ '/' := fun hc => h.slash (hc ▸ List.mem_cons_self ..)
  have hbackslash : c ≠ '\\' := fun hc => hback (hc ▸ rfl)
  rw [innerParts, List.dropWhile_cons_of_neg (by simp [hslash, hbackslash]), components_of_isComponent h]

/-- A component that starts with a backslash is not whole at the start of a path. -/
theorem not_mem_innerParts {last : List Char} (hback : last.head? = some '\\') : last ∉ innerParts last := by
  intro hmem
  obtain ⟨cs, rfl⟩ := List.head?_eq_some_iff.1 hback
  have hsub := (List.sublist_flatten_of_mem hmem).trans (flatten_components_sublist _)
  rw [List.dropWhile_cons_of_pos (by decide)] at hsub
  have hlength := hsub.length_le
  have hdrop := (List.dropWhile_suffix (l := cs) fun c => c = '/' || c = '\\').length_le
  rw [List.length_cons] at hlength
  omega

/-- A component at the end of a path, behind the text in front of it. -/
theorem endsWith_of_cutLast {last : List Char} (hlast : IsComponent last)
    (hfront : front = [] ∨ ∃ before, front = before ++ ['/']) : EndsWith (front ++ last) front last := by
  rcases hfront with rfl | ⟨before, rfl⟩
  · refine ⟨hlast, components_of_isComponent hlast, fun _ => rfl, ?_⟩
    obtain ⟨c, cs, rfl⟩ := List.exists_cons_of_ne_nil hlast.ne_nil
    have hc : c ≠ '/' := fun hc => hlast.slash (hc ▸ List.mem_cons_self ..)
    simpa [isAbsolute] using hc
  · have hpath : before ++ ['/'] ++ last = before ++ '/' :: last := List.append_assoc ..
    refine ⟨hlast, ?_, fun hname => ?_, isAbsolute_of_prefix (List.prefix_append ..) (by simp)⟩
    · rw [hpath, components_append_slash, components_slash, components_of_isComponent hlast]
    · rw [hpath, innerParts_append_slash] at hname ⊢
      rw [innerParts_slash]
      split_ifs at hname ⊢ with hall
      · rfl
      · rw [components_of_isComponent hlast] at hname ⊢
        by_cases hback : last.head? = some '\\'
        · refine absurd ?_ (not_mem_innerParts hback)
          rw [← hname.resolve_left (not_not.2 hback)]
          exact List.mem_append_right _ (List.mem_singleton_self _)
        · rw [innerParts_of_isComponent hlast hback]

/-- What is left of a path that starts at the root starts there too. -/
theorem isAbsolute_trimEnd (h : isAbsolute path = true → anchor = 1) :
    isAbsolute (trimEnd anchor budget path) = isAbsolute path := by
  by_cases hnil : trimEnd anchor budget path = []
  · cases habsolute : isAbsolute path with
    | false =>
      rw [hnil]
      rfl
    | true =>
      have hpath : path ≠ [] := fun hpath => by simp [hpath, isAbsolute] at habsolute
      have hpos := List.length_pos_of_ne_nil hpath
      have hle : 1 ≤ (trimEnd 1 budget path).length := anchor_le_trimEnd hpos
      rw [← h habsolute, hnil, List.length_nil, h habsolute] at hle
      exact absurd hle (by decide)
  · exact isAbsolute_of_prefix trimEnd_prefix hnil

/-- What is trimmed ends with a slash only if it is the root. -/
theorem IsTrimmed.last_ne_nil (h : IsTrimmed anchor path) (hle : anchor ≤ 1) (hcut : cutLast path = (front, name))
    (hne : path ≠ []) (hroot : path ≠ ['/']) : name ≠ [] := by
  rintro rfl
  by_cases hlong : anchor < path.length
  · exact (h front [] hcut hlong).1 rfl
  · obtain rfl : front = path := by simpa using append_of_cutLast hcut
    obtain ⟨before, rfl⟩ := (front_of_cutLast hcut).resolve_left hne
    rw [List.length_append, List.length_singleton] at hlong
    obtain rfl : before = [] := List.eq_nil_of_length_eq_zero (by omega)
    exact hroot rfl

/-- What is trimmed ends with a point alone only if it is nothing else. -/
theorem IsTrimmed.front_eq_nil (h : IsTrimmed anchor path) (hle : anchor ≤ 1)
    (hcut : cutLast path = (front, ['.'])) : front = [] := by
  by_cases hlong : anchor < path.length
  · rcases (h front ['.'] hcut hlong).2 rfl with hshort | hnil
    · exact List.eq_nil_of_length_eq_zero (by omega)
    · exact hnil
  · have hlength := congrArg List.length (append_of_cutLast hcut)
    rw [List.length_append, List.length_singleton] at hlength
    exact List.eq_nil_of_length_eq_zero (by omega)

/-- **The end of a path is its last component,** and the directory has the other ones. -/
theorem cut_cutEnd (path : List Char) : Cut path (cutEnd path) := by
  obtain ⟨anchor, hanchor⟩ : ∃ anchor, anchorLength path = anchor := ⟨_, rfl⟩
  obtain ⟨trimmed, htrim⟩ : ∃ trimmed, trimEnd anchor (path.length + 1) path = trimmed := ⟨_, rfl⟩
  obtain ⟨front, last, hcut⟩ : ∃ front last, cutLast trimmed = (front, last) := ⟨_, _, rfl⟩
  have hle : anchor ≤ 1 := hanchor ▸ anchorLength_le_one path
  have hstart : isAbsolute path = true → anchor = 1 := fun h => hanchor ▸ anchorLength_of_isAbsolute h
  have hparts : components trimmed = components path := htrim ▸ trimEnd_keeps components_slash components_here
  have hinner : innerParts trimmed = innerParts path := htrim ▸ trimEnd_keeps innerParts_slash innerParts_here
  have habsolute : isAbsolute trimmed = isAbsolute path := htrim ▸ isAbsolute_trimEnd hstart
  have htrimmed : IsTrimmed anchor trimmed := htrim ▸ isTrimmed_trimEnd (Nat.lt_succ_self _)
  have hends (hroot : trimmed ≠ ['/']) (hempty : trimmed ≠ []) (hhere : last ≠ ['.']) :
      EndsWith path (trimEnd anchor (trimmed.length + 1) front) last := by
    have h := endsWith_of_cutLast
      ⟨htrimmed.last_ne_nil hle hcut hempty hroot, hhere, slash_not_mem_of_cutLast hcut⟩ (front_of_cutLast hcut)
    rw [append_of_cutLast hcut] at h
    refine ⟨h.component, ?_, fun hname => ?_, ?_⟩
    · rw [← hparts, h.components, trimEnd_keeps components_slash components_here]
    · rw [← hinner] at hname ⊢
      rw [h.inner hname, trimEnd_keeps innerParts_slash innerParts_here]
    · rw [isAbsolute_trimEnd fun hfront => hstart (by rw [← habsolute, ← h.absolute, hfront]), h.absolute, habsolute]
  rw [cutEnd]
  simp only [hanchor, htrim, hcut]
  split_ifs with hroot hempty hhere habove
  · exact .nothing (.inl rfl) (by rw [← hparts, hroot]; rfl) (by rw [← hinner, hroot]; rfl)
  · exact .nothing (.inr rfl) (by rw [← hparts, hempty]; rfl) (by rw [← hinner, hempty]; rfl)
  · subst hhere
    have hfront := htrimmed.front_eq_nil hle hcut
    obtain rfl : ['.'] = trimmed := by simpa [hfront] using append_of_cutLast hcut
    rw [hfront, List.prefix_nil.1 trimEnd_prefix]
    exact .here (by rw [← hparts]; rfl) (by rw [← hinner]; rfl) (by rw [← habsolute]; rfl)
  · obtain rfl : last = above := habove
    exact .above (hends hroot hempty hhere)
  · exact .name (hends hroot hempty hhere) habove

/-! ### Together again -/

/-- How a directory is written: nothing is written as a point. -/
def directoryText (front : List Char) : String := if front = [] then "." else String.ofList front

theorem directory_eq (path : String) : directory path = directoryText ((parent? path.toList).getD path.toList) := by
  rw [directory]
  cases parent? path.toList with
  | none => simp [directoryText]
  | some front => cases front <;> simp [directoryText]

/-- A directory and a name that have the components of a path, and start where it starts, are joined as it is. -/
theorem join_directoryText {name path : String} (habsolute : isAbsolute front = isAbsolute path.toList)
    (hparts : innerParts path.toList = innerParts front ++ innerParts name.toList) :
    join [directoryText front, name] = join [path] := by
  obtain ⟨hne, hstart, hdir⟩ : directoryText front ≠ "" ∧ isAbsolute (directoryText front).toList = isAbsolute front ∧
      innerParts (directoryText front).toList = innerParts front := by
    rw [directoryText]
    split_ifs with hnil
    · rw [hnil]
      exact ⟨by decide, rfl, rfl⟩
    · rw [String.toList_ofList]
      exact ⟨by simpa using hnil, rfl, rfl⟩
  have hroot : startsAtRoot [directoryText front, name] = startsAtRoot [path] := by
    rw [startsAtRoot, List.find?_cons_of_pos (by simpa using hne), Option.any_some, hstart, habsolute]
    by_cases hpath : path = ""
    · rw [hpath]
      rfl
    · rw [startsAtRoot, List.find?_cons_of_pos (by simpa using hpath), Option.any_some]
  rw [join_eq, join_eq, hroot, List.flatMap_cons, List.flatMap_singleton, List.flatMap_singleton, segmentParts_eq,
    segmentParts_eq, segmentParts_eq, hdir, hparts]

/-- Whether the last component of a path leads up. -/
def EndsAbove (path : String) : Prop := (components path.toList).getLast? = some above

/-- Whether joining leaves the name at the end of a path as it is: no backslash starts it, or nothing but slashes and
backslashes are in front of it, which joining takes away from the path as well. -/
def NameStays (path : String) : Prop :=
  (base path).toList.head? ≠ some '\\' ∨ segmentParts path = segmentParts (base path)

instance (path : String) : Decidable (EndsAbove path) := inferInstanceAs (Decidable (_ = _))

instance (path : String) : Decidable (NameStays path) := inferInstanceAs (Decidable (_ ∨ _))

theorem EndsWith.endsAbove_iff {path : String} (h : EndsWith path.toList front name) :
    EndsAbove path ↔ name = above := by
  rw [EndsAbove, h.components, List.getLast?_concat, Option.some_inj]

theorem EndsWith.join {path : String} (h : EndsWith path.toList front name)
    (hname : name.head? ≠ some '\\' ∨ innerParts path.toList = innerParts name) :
    join [directoryText front, String.ofList name] = join [path] := by
  refine join_directoryText h.absolute ?_
  rw [String.toList_ofList, h.inner hname]

/-- A path without components is its directory. -/
theorem join_of_components {path : String} (hparts : innerParts path.toList = []) (hfront : innerParts front = [])
    (habsolute : isAbsolute front = isAbsolute path.toList) : Path.join [directoryText front, ""] = Path.join [path] := by
  refine join_directoryText habsolute ?_
  rw [hparts, hfront]
  rfl

theorem not_endsAbove_of_components {path : String} (hparts : components path.toList = []) : ¬ EndsAbove path := by
  rw [EndsAbove, hparts]
  exact nofun

/-- **A path is its directory and its name, and a name is its stem and its extension.**  The directory and the name are
joined to what the path alone is joined to, unless the path leads up at its end: then it has no name, and it takes the
directory and `..`. -/
theorem taken_apart (path : String) : baseWithout path (extension path) ++ extension path = base path ∧
    (¬ EndsAbove path → NameStays path → join [directory path, base path] = join [path]) ∧
    (EndsAbove path → base path = "" ∧ join [directory path, ".."] = join [path]) := by
  refine ⟨?_, ?_⟩
  · rw [baseWithout, extension, base, String.toList_ofList, String.toList_ofList, ← String.ofList_append,
      stripEnding_append_extensionOf]
  rw [NameStays, directory_eq, base, fileName?, parent?]
  have hcut := cut_cutEnd path.toList
  generalize cutEnd path.toList = cut at hcut
  cases hcut with
  | nothing he hparts hinner =>
    refine ⟨fun _ _ => ?_, fun hends => absurd hends (not_endsAbove_of_components hparts)⟩
    rcases he with rfl | rfl <;> exact join_of_components hinner hinner rfl
  | here hparts hinner hrelative =>
    exact ⟨fun _ _ => join_of_components hinner rfl hrelative.symm,
      fun hends => absurd hends (not_endsAbove_of_components hparts)⟩
  | above h =>
    exact ⟨fun hnot => absurd (h.endsAbove_iff.2 rfl) hnot, fun _ => ⟨rfl, h.join (.inl (by decide))⟩⟩
  | name h hne =>
    refine ⟨fun _ hname => ?_, fun hends => absurd (h.endsAbove_iff.1 hends) hne⟩
    rw [Option.getD_some, String.toList_ofList, segmentParts_eq, segmentParts_eq, String.toList_ofList] at hname
    exact h.join hname

/-- A file in a directory that is reached by going up, with separators that mean nothing, and such a directory. -/
theorem taken_apart_up :
    (¬ EndsAbove "../b/./c.tar.gz/." ∧ NameStays "../b/./c.tar.gz/." ∧ directory "../b/./c.tar.gz/." = "../b" ∧
      base "../b/./c.tar.gz/." = "c.tar.gz" ∧ extension "../b/./c.tar.gz/." = ".gz" ∧
      join ["../b", "c.tar.gz"] = join ["../b/./c.tar.gz/."]) ∧
    (EndsAbove "/a/../.." ∧ directory "/a/../.." = "/a/.." ∧ join ["/a/..", ".."] = join ["/a/../.."]) := by
  have hends : ¬ EndsAbove "../b/./c.tar.gz/." := by decide
  have hstays : NameStays "../b/./c.tar.gz/." := by decide
  have habove : EndsAbove "/a/../.." := by decide
  refine ⟨⟨hends, hstays, by decide, by decide, by decide, ?_⟩, habove, by decide, ?_⟩
  · exact (taken_apart "../b/./c.tar.gz/.").2.1 hends hstays
  · exact ((taken_apart "/a/../..").2.2 habove).2

/-- A path that leads up at its end has no name, and its directory alone leads elsewhere. -/
theorem not_taken_apart_above : join [directory "..", base ".."] = "." ∧ join [".."] = ".." ∧
    join [directory "..", base ".."] ≠ join [".."] := by decide

end Path
end ScriptImport
