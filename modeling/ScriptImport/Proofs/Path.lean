/-
# Where separators cut a path

Cutting at a separator that stands between two texts cuts both of them (`splitAt_append`), and a text
without separators is one part (`splitAt_of_not_mem`).  The parts have all characters but the separators
(`flatten_splitAt`).  So the path of a name in a directory goes first where the directory is and then to the
name, however the directory is spelled (`descend_resolve`).
-/

import ScriptImport.Proofs.Files

namespace ScriptImport
namespace Path

variable {α : Type} [DecidableEq α]

theorem splitAt_ne_nil (sep : α) (xs : List α) : splitAt sep xs ≠ [] := by
  induction xs with
  | nil => simp [splitAt]
  | cons x xs ih =>
    rw [splitAt]
    split_ifs
    · simp
    · cases hsplit : splitAt sep xs with
      | nil => exact absurd hsplit ih
      | cons part parts => simp

/-- A separator cuts. -/
theorem splitAt_append (sep : α) (xs ys : List α) :
    splitAt sep (xs ++ sep :: ys) = splitAt sep xs ++ splitAt sep ys := by
  induction xs with
  | nil => simp [splitAt]
  | cons x xs ih =>
    rw [List.cons_append, splitAt, splitAt, ih]
    split_ifs
    · rfl
    · obtain ⟨part, parts, hsplit⟩ := List.exists_cons_of_ne_nil (splitAt_ne_nil sep xs)
      rw [hsplit]
      rfl

/-- Nothing else cuts. -/
theorem splitAt_of_not_mem {sep : α} {xs : List α} (h : sep ∉ xs) : splitAt sep xs = [xs] := by
  induction xs with
  | nil => rfl
  | cons x xs ih =>
    rw [List.mem_cons, not_or] at h
    rw [splitAt, if_neg (Ne.symm h.1), ih h.2]

theorem mem_of_mem_splitAt {sep x : α} {xs part : List α} (hpart : part ∈ splitAt sep xs) (hx : x ∈ part) : x ∈ xs := by
  induction xs generalizing part with
  | nil =>
    obtain rfl := List.mem_singleton.1 hpart
    exact hx
  | cons y xs ih =>
    rw [splitAt] at hpart
    split_ifs at hpart
    · rcases List.mem_cons.1 hpart with rfl | hpart
      · exact absurd hx List.not_mem_nil
      · exact List.mem_cons_of_mem y (ih hpart hx)
    · obtain ⟨first, others, hsplit⟩ := List.exists_cons_of_ne_nil (splitAt_ne_nil sep xs)
      rw [hsplit] at hpart ih
      rcases List.mem_cons.1 hpart with rfl | hpart
      · rcases List.mem_cons.1 hx with rfl | hx
        · exact List.mem_cons_self ..
        · exact List.mem_cons_of_mem y (ih (List.mem_cons_self ..) hx)
      · exact List.mem_cons_of_mem y (ih (List.mem_cons_of_mem _ hpart) hx)

/-- There are no separators in the parts. -/
theorem not_mem_of_mem_splitAt {sep : α} {xs part : List α} (h : part ∈ splitAt sep xs) : sep ∉ part := by
  induction xs generalizing part with
  | nil =>
    obtain rfl := List.mem_singleton.1 h
    exact List.not_mem_nil
  | cons x xs ih =>
    rw [splitAt] at h
    split_ifs at h with hx
    · rcases List.mem_cons.1 h with rfl | h
      · exact List.not_mem_nil
      · exact ih h
    · obtain ⟨first, others, hsplit⟩ := List.exists_cons_of_ne_nil (splitAt_ne_nil sep xs)
      rw [hsplit] at h ih
      rcases List.mem_cons.1 h with rfl | h
      · exact List.not_mem_cons_of_ne_of_not_mem (Ne.symm hx) (ih (List.mem_cons_self ..))
      · exact ih (List.mem_cons_of_mem _ h)

/-- Only the separators are lost. -/
theorem flatten_splitAt (sep : α) (xs : List α) : (splitAt sep xs).flatten = xs.filter (· ≠ sep) := by
  induction xs with
  | nil => rfl
  | cons x xs ih =>
    rw [splitAt]
    split_ifs with hx
    · simp [hx, ih]
    · obtain ⟨part, parts, hsplit⟩ := List.exists_cons_of_ne_nil (splitAt_ne_nil sep xs)
      rw [hsplit] at ih
      rw [hsplit, List.filter_cons_of_pos (by simpa using hx), ← ih]
      rfl

end Path

namespace Files

theorem components_append (front back : String) :
    components (front ++ "/" ++ back) = components front ++ components back := by
  have hslash : (front ++ "/" ++ back).toList = front.toList ++ '/' :: back.toList := by simp
  rw [components, hslash, Path.splitAt_append, List.map_append]
  rfl

theorem components_of_not_mem {name : String} (h : '/' ∉ name.toList) : components name = [name] := by
  rw [components, Path.splitAt_of_not_mem h, List.map_singleton, String.ofList_toList]

/-- **A name in a directory is behind what the directory spells.** -/
theorem descend_resolve (dir : String) {name : String} (h : '/' ∉ name.toList) :
    descend [] (components (Path.resolve dir name)) = descend (descend [] (components dir)) [name] := by
  have hrelative : Path.isAbsolute name.toList = false := by
    rw [Path.isAbsolute, decide_eq_false_iff_not]
    exact fun hhead => h (List.mem_of_head? hhead)
  rw [Path.resolve, if_neg (by rw [hrelative]; decide)]
  split_ifs with hempty hslash
  · rw [hempty, components_of_not_mem h]
    rfl
  · obtain ⟨front, hfront⟩ := List.getLast?_eq_some_iff.1 hslash
    have hdir : dir = String.ofList front ++ "/" ++ "" := by
      rw [← String.ofList_toList (s := dir), hfront]
      simp
    have hname : dir ++ name = String.ofList front ++ "/" ++ name := by
      rw [hdir, String.append_empty]
    rw [hname, hdir, components_append, components_append, components_of_not_mem h, descend_append,
      descend_append]
    rfl
  · rw [components_append, components_of_not_mem h, descend_append]

end Files
end ScriptImport
